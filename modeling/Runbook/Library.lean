import Runbook.Error
import Runbook.Program.OfDocument

/-!
# The programs loaded so far, by canonical path

The first program that a path gave stays there, also when its file changes later.
-/

namespace Runbook

structure Library where
  entries : List (String × Program) := []

structure Loaded where
  path : String
  program : Program
  library : Library

namespace Library

def empty : Library := {}

def size (l : Library) : Nat := l.entries.length

def find? (l : Library) (path : String) : Option Program := l.entries.lookup path

/-- Loads the program of a path, reading its file only if the path is new. -/
def loadPath (l : Library) (files : FileSystem) (path : String) : Except Error Loaded :=
  match files.canonical path with
  | .error cause => .error (.programNotFound path cause)
  | .ok key =>
    match l.find? key with
    | some program => .ok ⟨key, program, l⟩
    | none =>
      match files.read key with
      | .error cause => .error (.programNotFound key cause)
      | .ok source =>
        match Program.parse source (Path.parent key) with
        | .error e => .error (.malformed e)
        | .ok program => .ok ⟨key, program, ⟨l.entries ++ [(key, program)]⟩⟩

def load (l : Library) (files : FileSystem) (dir path : String) : Except Error Loaded :=
  l.loadPath files (Path.join dir path)

end Library

end Runbook

import Runbook.File.Basic

/-! # A file system known only by the answers it has given -/

namespace Runbook

structure Snapshot where
  canonical : List (String × Except FileError String) := []
  texts : List (String × Except FileError String) := []

namespace Snapshot

def addCanonical (s : Snapshot) (path : String) (answer : Except FileError String) : Snapshot :=
  { s with canonical := (path, answer) :: s.canonical }

def addText (s : Snapshot) (path : String) (answer : Except FileError String) : Snapshot :=
  { s with texts := (path, answer) :: s.texts }

def knowsPath (s : Snapshot) (path : String) : Bool := (s.canonical.lookup path).isSome

def knowsText (s : Snapshot) (path : String) : Bool := (s.texts.lookup path).isSome

/-- What was never asked for is not there. -/
def system (s : Snapshot) : FileSystem where
  canonical path := (s.canonical.lookup path).getD (.error .notFound)
  read path := (s.texts.lookup path).getD (.error .notFound)

end Snapshot

end Runbook

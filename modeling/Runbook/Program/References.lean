import Runbook.File.Basic
import Runbook.Program.OfDocument

/-! # The other files that a program calls into -/

namespace Runbook

mutual

def Statement.files : Statement → List String
  | .call _ (some file) _ => [file]
  | .guard _ body => Statement.filesOf body
  | _ => []

def Statement.filesOf : List Statement → List String
  | [] => []
  | s :: rest => s.files ++ Statement.filesOf rest

end

def Program.references (p : Program) : List String :=
  p.functions.flatMap fun f => (Statement.filesOf f.body).map (Path.join p.baseDir)

/-- The paths that the text of the file at a canonical path can lead to. A malformed text leads
nowhere. -/
def referencesOf (path text : String) : List String :=
  match Program.parse text (Path.parent path) with
  | .ok p => p.references
  | .error _ => []

end Runbook

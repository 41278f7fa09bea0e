import Runbook.Machine.Basic
import Runbook.Settings.Setting

/-! # The settings of a run, put together from layers of which a later one wins -/

namespace Runbook

structure Settings where
  entry : String := "main"
  limits : Limits := {}
  logLevel : String := "warn"
  deriving Repr, BEq, DecidableEq

namespace Layer

/-! ## Keys

A key may be a path into a table or list, such as `a.b` or `a[0]`. Case does not count. -/

def isKeyChar (c : Char) : Bool := c.isAlphanum || c = ' ' || c = '_' || c = '-'

def isPath : Nat → List Char → Bool
  | 0, cs => cs.isEmpty
  | fuel + 1, cs =>
    match cs with
    | [] => true
    | '.' :: rest => !(rest.takeWhile isKeyChar).isEmpty && isPath fuel (rest.dropWhile isKeyChar)
    | '[' :: rest =>
      let index := rest.dropWhile (· = ' ')
      match (index.dropWhile Char.isDigit).dropWhile (· = ' ') with
      | ']' :: rest => !(index.takeWhile Char.isDigit).isEmpty && isPath fuel rest
      | _ => false
    | _ => false

/-- What a key means: a setting by its name, or something inside that setting. -/
structure Key where
  name : String
  inside : Bool

def key (s : String) : Key :=
  let cs := s.toList
  let name := cs.takeWhile isKeyChar
  let rest := cs.dropWhile isKeyChar
  if name.isEmpty || rest.isEmpty || !isPath rest.length rest then ⟨s.toLower, false⟩
  else ⟨(String.ofList name).toLower, true⟩

/-- The setting after a later one under the same key. A scalar is replaced; an empty table adds
nothing; what goes inside a setting makes it a table. -/
def override (old new : Setting) (inside : Bool) : Setting :=
  match inside, new with
  | true, _ => .table [("", new)]
  | false, .table [] => old
  | false, _ => new

def set (settings : Layer) (k : Key) (new : Setting) : Layer :=
  settings.map fun (name, old) =>
    if name = k.name then (name, override old new k.inside) else (name, old)

/-- Lets a later layer take effect. Only settings that are already there can change. -/
def merge (settings later : Layer) : Layer :=
  later.foldl (fun settings (name, value) => settings.set (key name) value) settings

end Layer

namespace Settings

def defaults : Layer :=
  let d : Settings := {}
  [("entry", .str d.entry), ("max_call_depth", .int d.limits.maxCallDepth),
   ("tail_calls", .bool d.limits.tailCalls), ("log_level", .str d.logLevel)]

def ofLayer? (l : Layer) : Option Settings := do
  let entry ← (← l.lookup "entry").toText?
  let maxCallDepth ← (← l.lookup "max_call_depth").toCount?
  let tailCalls ← (← l.lookup "tail_calls").toBool?
  let logLevel ← (← l.lookup "log_level").toText?
  some { entry, limits := { maxCallDepth, tailCalls }, logLevel }

end Settings

end Runbook

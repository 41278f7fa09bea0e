import Runbook.Expr.Basic
import Runbook.Text.Blank
import Runbook.Text.Identifier

/-!
# Assignments

The form `name = value`, where an operator may stand right before the `=`.
-/

namespace Runbook

inductive UpdateOp where
  | add
  | sub
  | mul
  | div
  deriving Repr, BEq, DecidableEq, Inhabited

def UpdateOp.binary : UpdateOp → BinaryOp
  | add => .add
  | sub => .sub
  | mul => .mul
  | div => .div

def UpdateOp.ofChar? : Char → Option UpdateOp
  | '+' => some .add
  | '-' => some .sub
  | '*' => some .mul
  | '/' => some .div
  | _ => none

/-- An assignment whose value has not been read yet. -/
structure Assignment where
  name : String
  op : Option UpdateOp
  value : String
  deriving Repr, BEq, DecidableEq

namespace Assignment

def isSpace (c : Char) : Bool := c = ' ' || c = '\t'

def operator (cs : List Char) : Option UpdateOp × List Char :=
  match cs with
  | [] => (none, [])
  | c :: rest =>
    match UpdateOp.ofChar? c with
    | some op => (some op, rest)
    | none => (none, cs)

/-- The value after the equals sign: it does not begin with another one and is not empty. -/
def value? : List Char → Option (List Char)
  | '=' :: '=' :: _ => none
  | '=' :: rest =>
    match rest.dropWhile isSpace with
    | [] => none
    | value => some value
  | _ => none

/-- Reads an assignment; any other text is none. Blanks around it do not count. -/
def parse? (text : String) : Option Assignment := do
  let (name, rest) ← Text.identifier? (Text.trimChars text.toList)
  let (op, rest) := operator (rest.dropWhile isSpace)
  let value ← value? rest
  some ⟨String.ofList name, op, String.ofList (Text.trimChars value)⟩

end Assignment

def variableName? (text : String) : Option String :=
  let name := Text.trimChars text.toList
  if Text.isIdentifier name then some (String.ofList name) else none

end Runbook

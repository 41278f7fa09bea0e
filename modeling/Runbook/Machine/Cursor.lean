import Runbook.Program.Basic

/-!
# Positions in a function body

A cursor has one index for each open block, the body's first; each counts the statements that were
begun, so the next open block is the body of the guard just before the index.
-/

namespace Runbook

abbrev Cursor := List Nat

namespace Cursor

/-- The body of the guard just before an index; nothing if no guard stands there. -/
def inside (block : List Statement) (index : Nat) : List Statement :=
  match index with
  | 0 => []
  | i + 1 =>
    match block[i]? with
    | some (.guard _ body) => body
    | _ => []

def block (body : List Statement) : Cursor → List Statement
  | [] => body
  | index :: deeper => block (inside body index) deeper

/-- The next statement to run, in the innermost block that has one left, and the cursor after it.
Blocks that have run out are closed. -/
def next? (body : List Statement) : Cursor → Option (Statement × Cursor)
  | [] => none
  | index :: deeper =>
    match next? (inside body index) deeper with
    | some (s, deeper) => some (s, index :: deeper)
    | none => body[index]?.map fun s => (s, [index + 1])

def atTail (body : List Statement) (cursor : Cursor) : Bool :=
  match next? body cursor with
  | none => true
  | some (.leave, _) => true
  | some _ => false

end Cursor

end Runbook

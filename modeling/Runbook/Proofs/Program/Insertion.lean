import Runbook.Proofs.Program.Reading

/-!
# Reading by position

One body that is whole at every moment, and the positions of the open guards in it, from the
outermost inward. Each statement is put where the positions lead. They always lead to a body, so
that no statement is dropped, and the bodies come out as recursion reads them.
-/

namespace Runbook

namespace Statement

/-- The body that the positions lead to, each of them that of a guard in the body before it. -/
def bodyAt : List Nat → List Statement → Option (List Statement)
  | [], body => some body
  | i :: path, body =>
    match body[i]? with
    | some (.guard _ inner) => bodyAt path inner
    | _ => none

def insertAt : List Nat → Statement → List Statement → Option (List Statement)
  | [], s, body => some (body ++ [s])
  | i :: path, s, body =>
    match body[i]? with
    | some (.guard test inner) =>
      (insertAt path s inner).map fun inner => body.set i (.guard test inner)
    | _ => none

end Statement

/-- A body and the positions of its open guards. -/
structure Trail where
  body : List Statement
  path : List Nat

namespace Trail

def add (t : Trail) : Item → Option Trail
  | .statement s => do some ⟨← Statement.insertAt t.path s t.body, t.path⟩
  | .guard test => do
    let inner ← Statement.bodyAt t.path t.body
    let body ← Statement.insertAt t.path (.guard test []) t.body
    some ⟨body, t.path ++ [inner.length]⟩
  | .leave => do some ⟨← Statement.insertAt t.path .leave t.body, []⟩
  | .function _ | .params _ | .nothing => some t

def read (items : List Item) : Option (List Statement) := do
  some (← items.foldlM add ⟨[], []⟩).body

end Trail

namespace Draft

/-! ## The open guards from the outermost inward -/

def nested (body last : List Statement) : List OpenGuard → List Statement
  | [] => body ++ last
  | g :: inner => body ++ [.guard g.test (nested g.body last inner)]

def innermost (body : List Statement) : List OpenGuard → List Statement
  | [] => body
  | g :: inner => innermost g.body inner

def positions (body : List Statement) : List OpenGuard → List Nat
  | [] => []
  | g :: inner => body.length :: positions g.body inner

variable {body last : List Statement} {guards : List OpenGuard} {g : OpenGuard}

theorem nested_concat :
    nested body last (guards ++ [g]) = nested body [.guard g.test (g.body ++ last)] guards := by
  induction guards generalizing body with
  | nil => rfl
  | cons h guards ih => simp only [List.cons_append, nested, ih]

theorem positions_concat :
    positions body (guards ++ [g]) = positions body guards ++ [(innermost body guards).length] := by
  induction guards generalizing body with
  | nil => rfl
  | cons h guards ih => simp only [List.cons_append, positions, innermost, ih]

theorem enclose_eq_nested : enclose body last guards = nested body last guards.reverse := by
  induction guards generalizing last with
  | nil => rfl
  | cons g outer ih => rw [enclose, ih, List.reverse_cons, nested_concat]

theorem bodyAt_positions :
    Statement.bodyAt (positions body guards) (nested body last guards)
      = some (innermost body guards ++ last) := by
  induction guards generalizing body with
  | nil => rfl
  | cons g guards ih => simp [positions, nested, innermost, Statement.bodyAt, ih]

theorem insertAt_positions (s : Statement) :
    Statement.insertAt (positions body guards) s (nested body last guards)
      = some (nested body (last ++ [s]) guards) := by
  induction guards generalizing body with
  | nil => simp [positions, nested, Statement.insertAt]
  | cons g guards ih => simp [positions, nested, Statement.insertAt, ih]

/-! ## A draft by position -/

def trail (d : Draft) : Trail := ⟨d.finish.body, positions d.body d.guards.reverse⟩

theorem body_trail (d : Draft) : d.trail.body = nested d.body [] d.guards.reverse :=
  enclose_eq_nested

theorem trail_push (d : Draft) (s : Statement) :
    (d.push s).trail = ⟨nested d.body [s] d.guards.reverse, d.trail.path⟩ := by
  obtain ⟨name, params, body, guards⟩ := d
  cases guards with
  | nil => simp [push, trail, finish, enclose, nested, positions]
  | cons g outer =>
    -- only the innermost body grows, and no position is counted in it
    simp [push, trail, finish, enclose_eq_nested, nested_concat, positions_concat]

theorem trail_openGuard (d : Draft) (test : Expr) :
    (d.openGuard test).trail = ⟨nested d.body [.guard test []] d.guards.reverse,
      d.trail.path ++ [(innermost d.body d.guards.reverse).length]⟩ := by
  simp [openGuard, trail, finish, enclose_eq_nested, nested_concat, positions_concat]

theorem trail_closeGuards (d : Draft) : d.closeGuards.trail = ⟨d.trail.body, []⟩ := by
  simp [closeGuards, trail, finish, enclose, positions]

theorem insertAt_trail (d : Draft) (s : Statement) :
    Statement.insertAt d.trail.path s d.trail.body = some (nested d.body [s] d.guards.reverse) := by
  rw [body_trail]
  exact insertAt_positions s

theorem bodyAt_trail (d : Draft) :
    Statement.bodyAt d.trail.path d.trail.body = some (innermost d.body d.guards.reverse) := by
  rw [body_trail, trail, bodyAt_positions, List.append_nil]

theorem trail_add (d : Draft) (item : Item) : d.trail.add item = some (d.add item).trail := by
  cases item with
  | statement s =>
    rw [Trail.add, insertAt_trail, add, trail_push]
    rfl
  | guard test =>
    rw [Trail.add, bodyAt_trail, insertAt_trail, add, trail_openGuard]
    rfl
  | leave =>
    rw [Trail.add, insertAt_trail, add, trail_closeGuards, trail_push]
    rfl
  | function name | params names | nothing => rfl

theorem trail_foldl_add (d : Draft) (items : List Item) :
    items.foldlM Trail.add d.trail = some (items.foldl add d).trail := by
  induction items generalizing d with
  | nil => rfl
  | cons item rest ih => rw [List.foldlM_cons, trail_add, List.foldl_cons, ← ih]; rfl

end Draft

theorem Trail.read_eq_reading (items : List Item) : Trail.read items = some (Item.reading items) := by
  have hbody : (items.foldl Draft.add (.start "")).trail.body = Item.reading items :=
    congrArg Function.body (Draft.finish_foldl_add "" items)
  have hfold : items.foldlM Trail.add ⟨[], []⟩ = some (items.foldl Draft.add (.start "")).trail :=
    Draft.trail_foldl_add (.start "") items
  rw [Trail.read, hfold, ← hbody]
  rfl

end Runbook

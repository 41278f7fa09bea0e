import Runbook.Program.OfDocument

/-!
# The body that a row of items says

By recursion on the items alone: a guard takes what follows it up to the next `leave`, and one
guard inside another is its last statement. A draft, which keeps its open guards apart, comes to
the same body.
-/

namespace Runbook

namespace Item

/-- What an open guard takes of the items after it: all up to the next `leave`, and that too. -/
def inside : List Item → List Statement
  | [] => []
  | .statement s :: rest => s :: inside rest
  | .guard test :: rest => [.guard test (inside rest)]
  | .leave :: _ => [.leave]
  | _ :: rest => inside rest

mutual

def reading : List Item → List Statement
  | [] => []
  | .statement s :: rest => s :: reading rest
  | .guard test :: rest => .guard test (inside rest) :: beyond rest
  | .leave :: rest => .leave :: reading rest
  | _ :: rest => reading rest

/-- The body that the items after the next `leave` say. -/
def beyond : List Item → List Statement
  | [] => []
  | .leave :: rest => reading rest
  | _ :: rest => beyond rest

end

def parameters (items : List Item) : List String :=
  items.flatMap fun
    | .params names => names
    | _ => []

end Item

namespace Draft

def add (d : Draft) : Item → Draft
  | .params names => { d with params := d.params ++ names }
  | .guard test => d.openGuard test
  | .statement s => d.push s
  | .leave => (d.push .leave).closeGuards
  | .function _ | .nothing => d

theorem name_add (d : Draft) (item : Item) : (d.add item).name = d.name := by
  cases item with
  | statement s | leave => simp only [add, push, closeGuards]; split <;> rfl
  | function name | params names | guard test | nothing => rfl

theorem params_add (d : Draft) (item : Item) :
    (d.add item).params = d.params ++ Item.parameters [item] := by
  cases item with
  | statement s | leave => simp only [add, push, closeGuards]; split <;> simp [Item.parameters]
  | function name | params names | guard test | nothing =>
    simp [add, openGuard, Item.parameters]

theorem name_foldl_add (d : Draft) (items : List Item) : (items.foldl add d).name = d.name := by
  induction items generalizing d with
  | nil => rfl
  | cons item rest ih => rw [List.foldl_cons, ih, name_add]

theorem params_foldl_add (d : Draft) (items : List Item) :
    (items.foldl add d).params = d.params ++ Item.parameters items := by
  induction items generalizing d with
  | nil => simp [Item.parameters]
  | cons item rest ih =>
    rw [List.foldl_cons, ih, params_add, List.append_assoc]
    simp [Item.parameters]

/-! ## Bodies -/

/-- The body of the function if the draft were closed with these items still to come: the innermost
body takes what is inside, the outermost what is beyond. -/
def bodyWith (d : Draft) (items : List Item) : List Statement :=
  match d.guards with
  | [] => d.body ++ Item.reading items
  | _ :: _ => enclose d.body (Item.inside items) d.guards ++ Item.beyond items

theorem bodyWith_nil (d : Draft) : d.bodyWith [] = d.finish.body := by
  unfold bodyWith
  split
  · rename_i h
    simp [Item.reading, finish, h, enclose]
  · simp [Item.inside, Item.beyond, finish]

theorem bodyWith_add (d : Draft) (item : Item) (rest : List Item) :
    (d.add item).bodyWith rest = d.bodyWith (item :: rest) := by
  obtain ⟨name, params, body, guards⟩ := d
  cases item with
  | statement s =>
    cases guards <;> simp [add, push, bodyWith, enclose, Item.reading, Item.inside, Item.beyond]
  | guard test =>
    cases guards <;> simp [add, openGuard, bodyWith, enclose, Item.reading, Item.inside, Item.beyond]
  | leave =>
    cases guards <;>
      simp [add, push, closeGuards, bodyWith, enclose, Item.reading, Item.inside, Item.beyond]
  | function other | params names | nothing =>
    cases guards <;> simp [add, bodyWith, Item.reading, Item.inside, Item.beyond]

theorem body_foldl_add (d : Draft) (items : List Item) :
    (items.foldl add d).finish.body = d.bodyWith items := by
  induction items generalizing d with
  | nil => rw [List.foldl_nil, bodyWith_nil]
  | cons item rest ih => rw [List.foldl_cons, ih, bodyWith_add]

theorem finish_foldl_add (name : String) (items : List Item) :
    (items.foldl add (start name)).finish
      = ⟨name, Item.parameters items, Item.reading items⟩ := by
  have hname := name_foldl_add (start name) items
  have hparams := params_foldl_add (start name) items
  have hbody := body_foldl_add (start name) items
  simp only [start, bodyWith, List.nil_append] at hname hparams hbody
  rw [← hbody, ← hparams]
  simp only [start, finish, hname]

end Draft

/-! ## The order of a body -/

namespace Statement

mutual

def walk : Statement → List Item
  | .guard test body => .guard test :: walkAll body
  | .leave => [.leave]
  | s => [.statement s]

def walkAll : List Statement → List Item
  | [] => []
  | s :: rest => walk s ++ walkAll rest

end

end Statement

namespace Item

def isStep : Item → Bool
  | .statement _ | .guard _ | .leave => true
  | .function _ | .params _ | .nothing => false

def Plain : Item → Prop
  | .statement (.guard _ _) | .statement .leave => False
  | _ => True

theorem walk_of_plain {s : Statement} (h : (Item.statement s).Plain) : s.walk = [.statement s] := by
  cases s with
  | guard test body | leave => exact h.elim
  | print e | assign name op value | call function file args | ask name => rfl

theorem walkAll_inside_beyond {items : List Item} (h : ∀ item ∈ items, item.Plain) :
    Statement.walkAll (inside items) ++ Statement.walkAll (beyond items) = items.filter isStep ∧
      Statement.walkAll (reading items) = items.filter isStep := by
  induction items with
  | nil => exact ⟨rfl, rfl⟩
  | cons item rest ih =>
    obtain ⟨hsplit, hreading⟩ := ih fun other hother => h other (by simp [hother])
    cases item with
    | statement s =>
      have hs := walk_of_plain (h (.statement s) (by simp))
      rw [List.filter_cons_of_pos rfl, ← hsplit]
      simp [inside, beyond, reading, Statement.walkAll, hs, hreading, hsplit]
    | guard test =>
      rw [List.filter_cons_of_pos rfl, ← hsplit]
      simp [inside, beyond, reading, Statement.walkAll, Statement.walk]
    | leave =>
      rw [List.filter_cons_of_pos rfl, ← hreading]
      simp [inside, beyond, reading, Statement.walkAll, Statement.walk]
    | function name | params names | nothing =>
      simp [inside, beyond, reading, isStep, hsplit, hreading]

end Item

end Runbook

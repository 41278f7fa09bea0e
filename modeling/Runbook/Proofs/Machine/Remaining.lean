import Runbook.Machine.Frame

/-!
# What a cursor leaves to run

The open blocks of a call, the innermost first, end in one row of statements, because a block that
has run out goes on with the block around it. Every fact about a cursor is one about this row.
-/

namespace Runbook

namespace Cursor

/-- The statements still to run, the next one first. A guard's body stands before what follows the
guard once it is open. -/
def remaining (body : List Statement) : Cursor → List Statement
  | [] => []
  | index :: deeper => remaining (inside body index) deeper ++ body.drop index

theorem remaining_eq_nil_of_next? {body : List Statement} {cursor : Cursor}
    (h : next? body cursor = none) : remaining body cursor = [] := by
  induction cursor generalizing body with
  | nil => rfl
  | cons index deeper ih =>
    rw [next?] at h
    split at h
    · simp at h
    · rename_i hdeeper
      have hindex : body[index]? = none := by simpa using h
      rw [remaining, ih hdeeper, List.drop_eq_nil_of_le (List.getElem?_eq_none_iff.mp hindex)]
      rfl

theorem remaining_of_next? {body : List Statement} {cursor moved : Cursor} {s : Statement}
    (h : next? body cursor = some (s, moved)) :
    remaining body cursor = s :: remaining body moved := by
  induction cursor generalizing body moved with
  | nil => simp [next?] at h
  | cons index deeper ih =>
    rw [next?] at h
    split at h
    · rename_i t inner hdeeper
      obtain ⟨rfl, rfl⟩ : t = s ∧ index :: inner = moved := by simpa using h
      rw [remaining, ih hdeeper]
      rfl
    · rename_i hdeeper
      obtain ⟨t, ht, htm⟩ := Option.map_eq_some_iff.mp h
      obtain ⟨rfl, rfl⟩ : t = s ∧ [index + 1] = moved := by simpa using htm
      obtain ⟨hlt, rfl⟩ := List.getElem?_eq_some_iff.mp ht
      rw [remaining, remaining_eq_nil_of_next? hdeeper, List.nil_append,
        List.drop_eq_getElem_cons hlt]
      rfl

theorem remaining_enter {body inner : List Statement} {cursor moved : Cursor} {test : Expr}
    (h : next? body cursor = some (.guard test inner, moved)) :
    remaining body (moved ++ [0]) = inner ++ remaining body moved := by
  induction cursor generalizing body moved with
  | nil => simp [next?] at h
  | cons index deeper ih =>
    rw [next?] at h
    split at h
    · rename_i t deep hdeeper
      obtain ⟨rfl, rfl⟩ : t = .guard test inner ∧ index :: deep = moved := by simpa using h
      rw [List.cons_append, remaining, ih hdeeper, remaining, List.append_assoc]
    · obtain ⟨t, ht, htm⟩ := Option.map_eq_some_iff.mp h
      obtain ⟨rfl, rfl⟩ : t = .guard test inner ∧ [index + 1] = moved := by simpa using htm
      simp [remaining, inside, ht]

theorem atTail_iff {body : List Statement} {cursor : Cursor} :
    atTail body cursor = true ↔
      remaining body cursor = [] ∨ ∃ rest, remaining body cursor = .leave :: rest := by
  rw [atTail]
  cases hnext : next? body cursor with
  | none => simp [remaining_eq_nil_of_next? hnext]
  | some read =>
    obtain ⟨s, moved⟩ := read
    rw [remaining_of_next? hnext]
    cases s <;> simp

end Cursor

/-! ## How many statements -/

mutual

def Statement.count : Statement → Nat
  | .guard _ body => Statement.countAll body + 1
  | _ => 1

def Statement.countAll : List Statement → Nat
  | [] => 0
  | s :: rest => s.count + Statement.countAll rest

end

theorem Statement.countAll_append (a b : List Statement) :
    countAll (a ++ b) = countAll a + countAll b := by
  induction a with
  | nil => simp [countAll]
  | cons s rest ih => simp only [List.cons_append, countAll, ih, Nat.add_assoc]

theorem Statement.count_pos (s : Statement) : 0 < s.count := by
  cases s <;> simp [count]

namespace Frame

def remaining (f : Frame) : List Statement := Cursor.remaining f.function.body f.cursor

theorem remaining_start (program : Program) (function : Function) (args : List Value) :
    (start program function args).remaining = function.body := by
  simp [remaining, start, Cursor.remaining]

end Frame

end Runbook

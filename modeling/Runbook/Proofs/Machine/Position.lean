import Runbook.Proofs.Machine.Remaining

/-!
# Where a cursor stands in a body

A cursor that fits has each index within its block, and each deeper block is the body of the guard
just passed, so that the way down is never lost. Moving on and opening a guard keep a cursor
fitting.
-/

namespace Runbook

inductive Statement.OccursIn (s : Statement) : List Statement → Prop where
  | here {block : List Statement} (h : s ∈ block) : s.OccursIn block
  | inside {block body : List Statement} {test : Expr} (h : .guard test body ∈ block)
    (hs : s.OccursIn body) : s.OccursIn block

def Statement.target? : Statement → Option String
  | .assign name _ _ => some name
  | .ask name => some name
  | _ => none

namespace Cursor

variable {body : List Statement} {cursor moved : Cursor} {s : Statement}

theorem not_occursIn_nil : ¬ s.OccursIn [] := by
  intro h
  cases h with
  | here h => simp at h
  | inside h hs => simp at h

theorem inside_of_guard {index : Nat} {test : Expr} {inner : List Statement}
    (h : body[index]? = some (.guard test inner)) : inside body (index + 1) = inner := by
  simp [inside, h]

theorem occursIn_of_inside {index : Nat} (h : s.OccursIn (inside body index)) : s.OccursIn body := by
  unfold inside at h
  split at h
  · exact absurd h not_occursIn_nil
  · split at h
    · rename_i hguard
      exact .inside (List.mem_of_getElem? hguard) h
    · exact absurd h not_occursIn_nil

theorem occursIn_cons {first : Statement} :
    s.OccursIn (first :: body) ↔
      s = first ∨ s.OccursIn (inside (first :: body) 1) ∨ s.OccursIn body := by
  constructor
  · intro h
    cases h with
    | here h =>
      rcases List.mem_cons.mp h with rfl | h
      · exact .inl rfl
      · exact .inr (.inr (.here h))
    | inside h hs =>
      rcases List.mem_cons.mp h with rfl | h
      · exact .inr (.inl hs)
      · exact .inr (.inr (.inside h hs))
  · rintro (rfl | h | h)
    · exact .here (List.mem_cons_self ..)
    · exact occursIn_of_inside h
    · cases h with
      | here h => exact .here (List.mem_cons_of_mem first h)
      | inside h hs => exact .inside (List.mem_cons_of_mem first h) hs

theorem next?_cons {index : Nat} {deeper : Cursor}
    (h : next? body (index :: deeper) = some (s, moved)) :
    (∃ inner, next? (inside body index) deeper = some (s, inner) ∧ moved = index :: inner) ∨
      body[index]? = some s ∧ moved = [index + 1] := by
  unfold next? at h
  split at h
  · rename_i t inner hdeeper
    obtain ⟨rfl, rfl⟩ : t = s ∧ index :: inner = moved := by simpa using h
    exact .inl ⟨inner, hdeeper, rfl⟩
  · obtain ⟨t, ht, htm⟩ := Option.map_eq_some_iff.mp h
    obtain ⟨rfl, rfl⟩ : t = s ∧ [index + 1] = moved := by simpa using htm
    exact .inr ⟨ht, rfl⟩

theorem occursIn_of_next? (h : next? body cursor = some (s, moved)) : s.OccursIn body := by
  induction cursor generalizing body moved with
  | nil => simp [next?] at h
  | cons index deeper ih =>
    rcases next?_cons h with ⟨inner, hdeeper, -⟩ | ⟨hindex, -⟩
    · exact occursIn_of_inside (ih hdeeper)
    · exact .here (List.mem_of_getElem? hindex)

/-! ## The statement just passed -/

/-- The statement stands just before the innermost index. -/
def JustPassed (body : List Statement) (cursor : Cursor) (s : Statement) : Prop :=
  ∃ outer index, cursor = outer ++ [index + 1] ∧ (block body outer)[index]? = some s

theorem justPassed_of_next? (h : next? body cursor = some (s, moved)) :
    JustPassed body moved s := by
  induction cursor generalizing body moved with
  | nil => simp [next?] at h
  | cons index deeper ih =>
    rcases next?_cons h with ⟨inner, hdeeper, rfl⟩ | ⟨hindex, rfl⟩
    · obtain ⟨outer, last, rfl, hlast⟩ := ih hdeeper
      exact ⟨index :: outer, last, rfl, hlast⟩
    · exact ⟨[], index, rfl, hindex⟩

/-! ## Cursors that fit -/

/-- Each index lies in its block, and the block below is the body of the guard before the index. -/
inductive Fits : List Statement → Cursor → Prop where
  | last {block : List Statement} {index : Nat} (h : index ≤ block.length) : Fits block [index]
  | inside {block body : List Statement} {test : Expr} {index : Nat} {deeper : Cursor}
    (hguard : block[index]? = some (.guard test body)) (h : Fits body deeper) :
    Fits block ((index + 1) :: deeper)

theorem Fits.start (body : List Statement) : Fits body [0] := .last (Nat.zero_le _)

theorem Fits.move (h : Fits body cursor) (hnext : next? body cursor = some (s, moved)) :
    Fits body moved := by
  induction h generalizing moved with
  | @last block index hindex =>
    rcases next?_cons hnext with ⟨inner, hdeeper, -⟩ | ⟨hs, rfl⟩
    · simp [next?] at hdeeper
    · obtain ⟨hlt, -⟩ := List.getElem?_eq_some_iff.mp hs
      exact .last hlt
  | @inside block inner test index deeper hguard hdeep ih =>
    rcases next?_cons hnext with ⟨rest, hdeeper, rfl⟩ | ⟨hs, rfl⟩
    · rw [inside_of_guard hguard] at hdeeper
      exact .inside hguard (ih hdeeper)
    · obtain ⟨hlt, -⟩ := List.getElem?_eq_some_iff.mp hs
      exact .last hlt

theorem Fits.enter {test : Expr} {inner : List Statement} (h : Fits body cursor)
    (hnext : next? body cursor = some (.guard test inner, moved)) : Fits body (moved ++ [0]) := by
  induction h generalizing moved with
  | @last block index hindex =>
    rcases next?_cons hnext with ⟨rest, hdeeper, -⟩ | ⟨hs, rfl⟩
    · simp [next?] at hdeeper
    · exact .inside hs (.start inner)
  | @inside block body' test' index deeper hguard hdeep ih =>
    rcases next?_cons hnext with ⟨rest, hdeeper, rfl⟩ | ⟨hs, rfl⟩
    · rw [inside_of_guard hguard] at hdeeper
      exact .inside hguard (ih hdeeper)
    · exact .inside hs (.start inner)

theorem Fits.ne_nil (h : Fits body cursor) : cursor ≠ [] := by
  cases h with
  | last h => simp
  | inside hguard h => simp

theorem block_of_guard {index : Nat} {test : Expr} {inner : List Statement} {deeper : Cursor}
    (h : body[index]? = some (.guard test inner)) :
    block body ((index + 1) :: deeper) = block inner deeper := by
  rw [block, inside_of_guard h]

theorem Fits.index_le (h : Fits body cursor) {depth index : Nat}
    (hindex : cursor[depth]? = some index) :
    index ≤ (block body (cursor.take depth)).length := by
  induction h generalizing depth with
  | @last block last hlast =>
    cases depth with
    | zero =>
      obtain rfl : last = index := by simpa using hindex
      exact hlast
    | succ depth => simp at hindex
  | @inside block inner test outer deeper hguard _ ih =>
    cases depth with
    | zero =>
      obtain rfl : outer + 1 = index := by simpa using hindex
      obtain ⟨hlt, -⟩ := List.getElem?_eq_some_iff.mp hguard
      exact hlt
    | succ depth =>
      have hrest : deeper[depth]? = some index := by simpa using hindex
      have hdeep := ih hrest
      rwa [List.take_succ_cons, block_of_guard hguard]

theorem Fits.guard_before (h : Fits body cursor) {depth index : Nat}
    (hindex : cursor[depth]? = some index) (hdeeper : depth + 1 < cursor.length) :
    ∃ test, 0 < index ∧ (block body (cursor.take depth))[index - 1]? =
      some (.guard test (block body (cursor.take (depth + 1)))) := by
  induction h generalizing depth with
  | @last block last hlast => simp at hdeeper
  | @inside block inner test outer deeper hguard _ ih =>
    cases depth with
    | zero =>
      obtain rfl : outer + 1 = index := by simpa using hindex
      refine ⟨test, Nat.succ_pos outer, ?_⟩
      rw [List.take_succ_cons, block_of_guard hguard]
      exact hguard
    | succ depth =>
      have hrest : deeper[depth]? = some index := by simpa using hindex
      have hdeep := ih hrest (by simpa using hdeeper)
      rwa [List.take_succ_cons, List.take_succ_cons, block_of_guard hguard, block_of_guard hguard]

end Cursor

end Runbook

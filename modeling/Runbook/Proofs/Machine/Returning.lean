import Mathlib.Data.List.Induction
import Runbook.Proofs.Machine.Moves
import Runbook.Proofs.Machine.Runs

/-!
# When a call returns

Whether a call is at its end can be told from its cursor as it stands, by looking for the
innermost block that has a statement left. A step closes the blocks that have run out one after
the other and comes to the same statement, whatever the cursor is, so the calls at their end are
exactly those that the next step takes off the stack.
-/

namespace Runbook

namespace Cursor

variable {body : List Statement}

def pending? (body : List Statement) (cursor : Cursor) (depth : Nat) : Option Statement :=
  cursor[depth]?.bind fun index => (block body (cursor.take depth))[index]?

/-- The next statement of the innermost block that has one left. The cursor is not changed. -/
def innermost? (body : List Statement) (cursor : Cursor) : Option Statement :=
  (List.range cursor.length).reverse.findSome? (pending? body cursor)

theorem next?_concat (outer : Cursor) (index : Nat) :
    next? body (outer ++ [index]) =
      match (block body outer)[index]? with
      | some s => some (s, outer ++ [index + 1])
      | none => next? body outer := by
  induction outer generalizing body with
  | nil =>
    unfold block
    rw [List.nil_append, next?, next?]
    cases body[index]? <;> rfl
  | cons first deeper ih =>
    unfold block
    rw [List.cons_append, next?, ih, next?]
    cases (block (inside body first) deeper)[index]? <;> rfl

theorem pending?_concat (outer : Cursor) (index : Nat) :
    pending? body (outer ++ [index]) outer.length = (block body outer)[index]? := by
  simp [pending?]

theorem pending?_of_lt {outer : Cursor} {depth : Nat} (h : depth < outer.length) (index : Nat) :
    pending? body (outer ++ [index]) depth = pending? body outer depth := by
  unfold pending?
  rw [List.getElem?_append_left h, List.take_append_of_le_length (Nat.le_of_lt h)]

theorem innermost?_concat (outer : Cursor) (index : Nat) :
    innermost? body (outer ++ [index]) =
      match (block body outer)[index]? with
      | some s => some s
      | none => innermost? body outer := by
  have houter : (List.range outer.length).reverse.map (pending? body (outer ++ [index])) =
      (List.range outer.length).reverse.map (pending? body outer) := by
    apply List.map_congr_left
    intro depth hdepth
    apply pending?_of_lt
    simpa using hdepth
  have hsearch := congrArg (List.findSome? id) houter
  rw [List.findSome?_map, List.findSome?_map] at hsearch
  unfold innermost?
  rw [List.length_append, List.length_singleton, List.range_succ, List.reverse_append,
    List.reverse_singleton, List.singleton_append, List.findSome?_cons, pending?_concat]
  cases (block body outer)[index]? with
  | some s => rfl
  | none => exact hsearch

theorem innermost?_eq_next? (body : List Statement) (cursor : Cursor) :
    innermost? body cursor = (next? body cursor).map Prod.fst := by
  induction cursor using List.reverseRecOn with
  | nil => rfl
  | append_singleton outer index ih =>
    rw [innermost?_concat, next?_concat, ih]
    cases (block body outer)[index]? <;> rfl

theorem atTail_iff_innermost? {cursor : Cursor} :
    atTail body cursor = true ↔ ∀ s, innermost? body cursor = some s → s = .leave := by
  unfold atTail
  rw [innermost?_eq_next?]
  cases next? body cursor with
  | none => simp
  | some read =>
    obtain ⟨s, moved⟩ := read
    cases s <;> simp

end Cursor

theorem Frame.act_finish_iff (f : Frame) (files : FileSystem) (w : World) :
    (f.act files w).1 = .finish ↔ f.atTail = true := by
  constructor
  · intro h
    rw [atTail, Cursor.atTail_iff]
    rcases f.act_performed files w with ⟨hnil, -⟩ | ⟨s, g, hpass, hact⟩
    · exact .inl hnil
    · generalize f.act files w = done at hact h
      cases hact with
      | left => exact .inr ⟨g.remaining, hpass.remaining⟩
      | printed | stored | entered | skipped | asked | failed | unresolved | called => cases h
  · intro h
    rw [act_of_atTail h]

namespace Machine

theorem length_settle_lt_iff {limits : Limits} {below : List Frame} {done : Deed × World} :
    (settle limits below done).2.frames.length < below.length + 1 ↔ done.1 = .finish := by
  obtain ⟨deed, w⟩ := done
  cases deed with
  | finish => simp [settle, running]
  | proceed f | wait f name | fail f e => simp [settle, running, paused]
  | call f program function args =>
    simp only [settle, reduceCtorEq, iff_false, Nat.not_lt]
    split
    · exact Nat.le_refl _
    · split
      · exact Nat.le_refl _
      · exact Nat.le_succ _

/-- A call is at its end exactly if the next step shortens the stack, and that step takes the call
off and does nothing else. What is at its end can be read off the cursor, which need not fit. -/
theorem atTail_iff_step_returns {m : Machine} {f : Frame} {below : List Frame}
    (hwaiting : m.waiting = none) (hframes : m.frames = f :: below) (files : FileSystem) :
    (f.atTail = true ↔ (m.step files).2.frames.length < m.frames.length) ∧
    (f.atTail = true → m.step files = (.ok .running, { m with frames := below })) ∧
    (f.atTail = true ↔
      ∀ s, Cursor.innermost? f.function.body f.cursor = some s → s = .leave) := by
  have hm : m = running m.limits (f :: below) m.world := by
    rw [← setFrames_eq_running hwaiting, ← hframes]
  have hstep : m.step files = settle m.limits below (f.act files m.world) := by
    rw [← step_running, ← hm]
  refine ⟨?_, ?_, Cursor.atTail_iff_innermost?⟩
  · rw [hstep, hframes, List.length_cons, length_settle_lt_iff, Frame.act_finish_iff]
  · intro htail
    rw [hstep, Frame.act_of_atTail htail, setFrames_eq_running hwaiting]
    rfl

theorem atTail_iff_step_returns_dangling :
    let main : Function := ⟨"main", [], [.guard (.bool true) [.print (.str "a"), .leave],
      .print (.str "b")]⟩
    let p : Program := ⟨"", [main], by simp⟩
    let caller : Frame := ⟨p, main, .empty, [1]⟩
    let f : Frame := ⟨p, main, .empty, [1, 1, 7]⟩
    let m : Machine := { frames := [f, caller], input := .interactive }
    (m.waiting = none ∧ m.frames = [f, caller] ∧ f.atTail = true ∧
      Cursor.innermost? main.body f.cursor = some .leave ∧
      m.step .empty = (.ok .running, { m with frames := [caller] })) ∧
    caller.atTail = false ∧
      ¬({ m with frames := [caller] }.step .empty).2.frames.length < [caller].length := by
  intro main p caller f m
  have hleave : Cursor.innermost? main.body f.cursor = some .leave := rfl
  obtain ⟨-, hreturns, hsearch⟩ := atTail_iff_step_returns (m := m) rfl rfl .empty
  have htail : f.atTail = true := by
    rw [hsearch, hleave]
    exact fun s hs => (Option.some.inj hs).symm
  have hgoes : caller.atTail = false := rfl
  obtain ⟨hshorter, -, -⟩ :=
    atTail_iff_step_returns (m := { m with frames := [caller] }) rfl rfl .empty
  refine ⟨⟨rfl, rfl, htail, hleave, hreturns htail⟩, hgoes, ?_⟩
  intro hlt
  rw [hshorter.mpr hlt] at hgoes
  cases hgoes

end Machine

end Runbook

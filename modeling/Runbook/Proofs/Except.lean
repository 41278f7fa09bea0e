import Mathlib.Data.List.Forall2

/-! # Taking apart computations that may fail -/

namespace Runbook

variable {ε α β : Type}

theorem ok_of_bind {x : Except ε α} {f : α → Except ε β} {b : β} (h : x >>= f = .ok b) :
    ∃ a, x = .ok a ∧ f a = .ok b := by
  cases x with
  | error err => simp [bind, Except.bind] at h
  | ok a => exact ⟨a, rfl, h⟩

theorem bind_eq_ok_iff {x : Except ε α} {f : α → β} {b : β} :
    (do .ok (f (← x))) = (.ok b : Except ε β) ↔ ∃ a, x = .ok a ∧ f a = b := by
  cases x <;> simp [bind, Except.bind]

theorem bind_eq_error_iff {x : Except ε α} {f : α → β} {err : ε} :
    (do .ok (f (← x))) = (.error err : Except ε β) ↔ x = .error err := by
  cases x <;> simp [bind, Except.bind]

theorem ok_of_mapM_cons {f : α → Except ε β} {a : α} {as : List α} {bs : List β}
    (h : (a :: as).mapM f = .ok bs) :
    ∃ b rest, f a = .ok b ∧ as.mapM f = .ok rest ∧ bs = b :: rest := by
  rw [List.mapM_cons] at h
  obtain ⟨b, hb, hrest⟩ := ok_of_bind h
  obtain ⟨rest, hmap, heq⟩ := ok_of_bind hrest
  exact ⟨b, rest, hb, hmap, (Except.ok.inj heq).symm⟩

theorem mapM_eq_ok_iff {f : α → Except ε β} {as : List α} {bs : List β} :
    as.mapM f = .ok bs ↔ List.Forall₂ (fun a b => f a = .ok b) as bs := by
  induction as generalizing bs with
  | nil => simp [pure, Except.pure, eq_comm]
  | cons a as ih =>
    rw [List.forall₂_cons_left_iff]
    constructor
    · intro h
      obtain ⟨b, rest, hb, hrest, rfl⟩ := ok_of_mapM_cons h
      exact ⟨b, rest, hb, ih.mp hrest, rfl⟩
    · rintro ⟨b, rest, hb, hrest, rfl⟩
      rw [List.mapM_cons, hb, ih.mpr hrest]
      rfl

theorem ok_of_mem_mapM {f : α → Except ε β} {as : List α} {bs : List β} (h : as.mapM f = .ok bs) :
    ∀ a ∈ as, ∃ b, f a = .ok b := by
  induction as generalizing bs with
  | nil => simp
  | cons a as ih =>
    obtain ⟨b, rest, hb, hmap, -⟩ := ok_of_mapM_cons h
    intro x hx
    rcases List.mem_cons.mp hx with rfl | hx
    · exact ⟨b, hb⟩
    · exact ih hmap x hx

/-! ## The first failure of a row -/

/-- The first of these computations that fails, fails with that error. -/
def FirstError (f : α → Except ε β) (as : List α) (err : ε) : Prop :=
  ∃ before a after, as = before ++ a :: after ∧ (∀ x ∈ before, ∃ b, f x = .ok b) ∧
    f a = .error err

theorem not_firstError_nil {f : α → Except ε β} {err : ε} : ¬FirstError f [] err := by
  rintro ⟨before, a, after, h, -⟩
  simp at h

theorem firstError_cons_of_ok {f : α → Except ε β} {a : α} {b : β} (h : f a = .ok b)
    {as : List α} {err : ε} : FirstError f (a :: as) err ↔ FirstError f as err := by
  constructor
  · rintro ⟨before, x, after, has, hbefore, hx⟩
    cases before with
    | nil =>
      obtain ⟨rfl, -⟩ := List.cons.inj has
      rw [h] at hx
      cases hx
    | cons first before =>
      obtain ⟨-, rfl⟩ := List.cons.inj has
      exact ⟨before, x, after, rfl, fun y hy => hbefore y (List.mem_cons_of_mem _ hy), hx⟩
  · rintro ⟨before, x, after, rfl, hbefore, hx⟩
    refine ⟨a :: before, x, after, rfl, ?_, hx⟩
    intro y hy
    rcases List.mem_cons.mp hy with rfl | hy
    · exact ⟨b, h⟩
    · exact hbefore y hy

theorem firstError_cons_of_error {f : α → Except ε β} {a : α} {failure : ε}
    (h : f a = .error failure) {as : List α} {err : ε} :
    FirstError f (a :: as) err ↔ failure = err := by
  constructor
  · rintro ⟨before, x, after, has, hbefore, hx⟩
    cases before with
    | nil =>
      obtain ⟨rfl, -⟩ := List.cons.inj has
      exact Except.error.inj (h.symm.trans hx)
    | cons first before =>
      obtain ⟨rfl, -⟩ := List.cons.inj has
      obtain ⟨b, hb⟩ := hbefore a (by simp)
      rw [h] at hb
      cases hb
  · rintro rfl
    exact ⟨[], a, as, rfl, by simp, h⟩

theorem mapM_eq_error_iff {f : α → Except ε β} {as : List α} {err : ε} :
    as.mapM f = .error err ↔ FirstError f as err := by
  induction as with
  | nil => simp [pure, Except.pure, not_firstError_nil]
  | cons a as ih =>
    rw [List.mapM_cons]
    cases ha : f a with
    | error failure => simp [bind, Except.bind, firstError_cons_of_error ha]
    | ok b =>
      rw [firstError_cons_of_ok ha, ← ih]
      cases as.mapM f <;> simp [bind, Except.bind, pure, Except.pure]

theorem firstError_single {f : α → Except ε β} {a : α} {err : ε} :
    FirstError f [a] err ↔ f a = .error err := by
  cases h : f a with
  | ok b => simp [firstError_cons_of_ok h, not_firstError_nil]
  | error failure => simp [firstError_cons_of_error h]

theorem firstError_append {f : α → Except ε β} {as bs : List α} {err : ε} :
    FirstError f (as ++ bs) err ↔
      FirstError f as err ∨ (∃ xs, as.mapM f = .ok xs) ∧ FirstError f bs err := by
  simp only [← mapM_eq_error_iff, List.mapM_append]
  cases as.mapM f with
  | error failure => simp [bind, Except.bind]
  | ok xs => cases bs.mapM f <;> simp [bind, Except.bind, pure, Except.pure]

/-- If each computation fails as a row of others does, a row of them fails as all the others. -/
theorem firstError_flatMap {γ δ : Type} {f : α → Except ε β} {g : γ → Except ε δ}
    {row : α → List γ} (h : ∀ a err, f a = .error err ↔ FirstError g (row a) err) (as : List α)
    {err : ε} : FirstError f as err ↔ FirstError g (as.flatMap row) err := by
  induction as with
  | nil => exact iff_of_false not_firstError_nil not_firstError_nil
  | cons a as ih =>
    rw [List.flatMap_cons, firstError_append]
    cases ha : f a with
    | error failure =>
      have hrow := mapM_eq_error_iff.mpr ((h a failure).mp ha)
      rw [firstError_cons_of_error ha, ← mapM_eq_error_iff, hrow]
      simp
    | ok b =>
      rw [firstError_cons_of_ok ha, ih]
      cases hrow : (row a).mapM g with
      | error failure =>
        rw [(h a failure).mpr (mapM_eq_error_iff.mp hrow)] at ha
        cases ha
      | ok xs =>
        have hnone : ¬FirstError g (row a) err := by simp [← mapM_eq_error_iff, hrow]
        simp [hnone]

theorem exists_firstError_iff {f : α → Except ε β} {as : List α} :
    (∃ err, FirstError f as err) ↔ ∃ a ∈ as, ∃ err, f a = .error err := by
  constructor
  · rintro ⟨err, before, a, after, rfl, -, ha⟩
    exact ⟨a, by simp, err, ha⟩
  · rintro ⟨a, hmem, err, ha⟩
    cases hrow : as.mapM f with
    | error first => exact ⟨first, mapM_eq_error_iff.mp hrow⟩
    | ok bs =>
      obtain ⟨b, hb⟩ := ok_of_mem_mapM hrow a hmem
      rw [ha] at hb
      cases hb

end Runbook

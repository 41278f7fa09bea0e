/-! # Sets of code points -/

namespace Runbook.Text

/-- Each range ends before the next one begins, and the first begins at `low` or above. -/
def ascending (low : Nat) : List (Nat × Nat) → Bool
  | [] => true
  | (lo, hi) :: rest => low ≤ lo && lo ≤ hi && ascending (hi + 1) rest

structure Ranges where
  ranges : List (Nat × Nat)
  isAscending : ascending 0 ranges = true := by decide +kernel

/-- The search ends at the first range above `n`. -/
def search (n : Nat) : List (Nat × Nat) → Bool
  | [] => false
  | (lo, hi) :: rest => if n < lo then false else n ≤ hi || search n rest

def Ranges.has (r : Ranges) (n : Nat) : Bool := search n r.ranges

theorem le_of_ascending {low n : Nat} {ranges : List (Nat × Nat)} (h : ascending low ranges = true)
    {range : Nat × Nat} (hmem : range ∈ ranges) (hn : range.1 ≤ n) : low ≤ n := by
  induction ranges generalizing low with
  | nil => cases hmem
  | cons first rest ih =>
    simp only [ascending, Bool.and_eq_true, decide_eq_true_eq] at h
    rcases List.mem_cons.mp hmem with rfl | hrest
    · omega
    · have := ih h.2 hrest
      omega

theorem search_iff {low n : Nat} {ranges : List (Nat × Nat)} (h : ascending low ranges = true) :
    search n ranges = true ↔ ∃ range ∈ ranges, range.1 ≤ n ∧ n ≤ range.2 := by
  induction ranges generalizing low with
  | nil => simp [search]
  | cons first rest ih =>
    simp only [ascending, Bool.and_eq_true, decide_eq_true_eq] at h
    rw [search]
    split
    · -- no later range begins below this one
      rename_i hbelow
      simp only [Bool.false_eq_true, false_iff, not_exists, not_and]
      intro range hmem hlow
      rcases List.mem_cons.mp hmem with rfl | hrest
      · omega
      · have := le_of_ascending h.2 hrest hlow
        omega
    · rw [Bool.or_eq_true, ih h.2, decide_eq_true_eq]
      constructor
      · rintro (hhigh | ⟨range, hrest, hin⟩)
        · exact ⟨first, by simp, by omega, hhigh⟩
        · exact ⟨range, List.mem_cons_of_mem _ hrest, hin⟩
      · rintro ⟨range, hmem, hin⟩
        rcases List.mem_cons.mp hmem with rfl | hrest
        · exact .inl hin.2
        · exact .inr ⟨range, hrest, hin⟩

/-- Stopping early misses no range. -/
theorem Ranges.has_iff (r : Ranges) (n : Nat) :
    r.has n = true ↔ ∃ range ∈ r.ranges, range.1 ≤ n ∧ n ≤ range.2 := search_iff r.isAscending

end Runbook.Text

import Mathlib
import Runbook.Proofs.Number.Optimal
import Runbook.Proofs.Number.Text

/-!
# Whole numbers and their shortest decimals

A shortest decimal that is whole has no digits after the point, and up to `2 ^ 53`, where all
whole numbers are binary, a whole number is its own shortest decimal.
-/

namespace Runbook.Number

variable {m n : Nat} {e : Int} {d : Decimal}

theorem whole?_eq_some_iff : whole? m e = some n ↔ binary m e = n := by
  constructor
  · exact binary_whole?
  · intro h
    have hmul : m * 2 ^ e.toNat = n * 2 ^ (-e).toNat := by
      rw [binary, zpow_eq_div two_ne_zero, ← mul_div_assoc, div_eq_iff (by positivity)] at h
      exact_mod_cast h
    unfold whole?
    simp only [Nat.pow_eq]
    split_ifs with hexponent hmod
    · have hzero : (-e).toNat = 0 := by omega
      rw [hmul, hzero, pow_zero, mul_one]
    all_goals
      have hzero : e.toNat = 0 := by omega
      rw [hzero, pow_zero, mul_one] at hmul
    · rw [hmul, Nat.mul_div_cancel _ (Nat.two_pow_pos _)]
    · exact absurd (hmul ▸ Nat.mul_mod_left _ _) hmod

theorem toDigits_mul_pow (hn : 0 < n) (k : Nat) :
    Nat.toDigits 10 (n * 10 ^ k) = Nat.toDigits 10 n ++ List.replicate k '0' := by
  induction k with
  | zero => simp
  | succ k ih =>
    have hpos : 0 < n * 10 ^ k := by positivity
    have happend := Nat.toDigits_append_toDigits (b := 10) (d := 0) (by decide) hpos (by decide)
    have hten : n * 10 ^ (k + 1) = 10 * (n * 10 ^ k) + 0 := by ring
    rw [hten, ← happend, ih, List.replicate_succ', List.append_assoc]
    rfl

/-! ## Shortest decimals that are whole -/

theorem IsShortest.coefficient_pos (h : IsShortest m e d) (hm : 0 < m) : 0 < d.coefficient := by
  by_contra hzero
  have hvalue : d.value = 0 := by simp [Decimal.value, show d.coefficient = 0 by omega]
  have hnear := h.rounds.nearest 0 (-1074) isBinary_zero
  have hpos := binary_pos (e := e) hm
  have hnone : binary 0 (-1074) = 0 := by simp [binary]
  rw [hvalue, hnone, sub_self, abs_zero, abs_nonpos_iff] at hnear
  linarith

theorem IsShortest.exponent_nonneg (h : IsShortest m e d) (hm : 0 < m) (hvalue : d.value = n) :
    0 ≤ d.exponent := by
  by_contra hneg
  have hpos := h.coefficient_pos hm
  obtain ⟨k, hk⟩ : ∃ k : Nat, d.exponent = -k := ⟨(-d.exponent).toNat, by omega⟩
  have hcoefficient : d.coefficient = n * 10 ^ k := by
    rw [Decimal.value, hk, zpow_neg, zpow_natCast, ← div_eq_mul_inv, div_eq_iff (by positivity)]
      at hvalue
    exact_mod_cast hvalue
  have hrounds : Rounds (Decimal.value ⟨n, 0⟩) m e := by
    have hself : Decimal.value ⟨n, 0⟩ = d.value := by
      rw [hvalue]
      simp [Decimal.value]
    exact hself ▸ h.rounds
  -- the final zeros of the coefficient are not needed
  have hfewest : digitCount d.coefficient ≤ digitCount n := h.fewest _ hrounds
  have hn : 0 < n := Nat.pos_of_mul_pos_right (hcoefficient ▸ hpos)
  rw [hcoefficient, digitCount, digitCount, toDigits_mul_pow hn, List.length_append,
    List.length_replicate] at hfewest
  omega

theorem IsShortest.value_eq {other : Decimal} (h : IsShortest m e d) (hother : IsShortest m e other)
    (hvalue : other.value = binary m e) : d.value = binary m e := by
  have hclosest := h.closest other hother.rounds
    (le_antisymm (hother.fewest d h.rounds) (h.fewest other hother.rounds))
  rw [hvalue, sub_self, abs_zero] at hclosest
  linarith [abs_nonpos_iff.mp hclosest]

/-! ## Up to the last whole number -/

theorem Rounds.near_whole {q : ℚ} (h : Rounds q m e) (hm : 0 < m) (hn : binary m e = n)
    (hle : n ≤ 2 ^ 53) : n - 1 / 2 ≤ q ∧ (q ≤ n + 1 / 2 ∨ n = 2 ^ 53 ∧ q ≤ n + 1) := by
  have hfull := h.isBinary.full
  obtain ⟨⟨hlow, hhigh⟩, -⟩ := between_of_rounds h hm
  rw [hn] at hlow hhigh
  rcases le_or_gt e 0 with hexponent | hexponent
  · have hunit : (2 : ℚ) ^ e ≤ 1 := zpow_le_one_of_nonpos₀ (by norm_num) hexponent
    have hgap : gapBelow m e ≤ 2 ^ e := by
      unfold gapBelow
      split_ifs
      · exact zpow_le_zpow_right₀ (by norm_num) (by omega)
      · exact le_rfl
    exact ⟨by linarith, .inl (by linarith)⟩
  · obtain ⟨k, rfl⟩ := Int.eq_ofNat_of_zero_le hexponent.le
    have hvalue : m * 2 ^ k = n := by
      rw [binary, zpow_natCast] at hn
      exact_mod_cast hn
    -- a full mantissa leaves room for one more bit only
    have hbits : 2 ^ k ≤ 2 ^ 1 := by
      by_contra hmore
      have : 2 ^ 52 * 2 ^ k ≤ m * 2 ^ k := Nat.mul_le_mul_right _ (by omega)
      omega
    obtain rfl : k = 1 := le_antisymm ((Nat.pow_le_pow_iff_right (by decide)).mp hbits) (by omega)
    obtain rfl : m = 2 ^ 52 := by omega
    rw [gapBelow, if_pos ⟨rfl, by decide⟩] at hlow
    norm_num at hlow hhigh
    exact ⟨by linarith, .inr ⟨by omega, by linarith⟩⟩

/-- A decimal with fewer digits than a whole number is smaller by a unit at least, or it is another
whole number that ends in a zero. -/
theorem Decimal.apart_of_fewer {c j : Nat} (hc : ¬10 ∣ c) (hn : n = 10 ^ j * c)
    (hfewer : digitCount d.coefficient < digitCount c) :
    d.value + 1 ≤ n ∨ ∃ k : Nat, d.value = k ∧ 10 ∣ k ∧ k ≠ n := by
  rcases le_or_gt d.exponent j with hplace | hplace
  · left
    have hpos : 0 < c := Nat.pos_of_ne_zero (by rintro rfl; exact hc (dvd_zero 10))
    have hless : d.coefficient + 1 ≤ c :=
      calc d.coefficient < 10 ^ digitCount d.coefficient := lt_pow_digitCount _
        _ ≤ 10 ^ (digitCount c - 1) := Nat.pow_le_pow_right (by decide) (Nat.le_sub_one_of_lt hfewer)
        _ ≤ c := pow_digitCount_le hpos
    have hupper : d.value ≤ d.coefficient * 10 ^ j := by
      rw [value, ← zpow_natCast]
      exact mul_le_mul_of_nonneg_left (zpow_le_zpow_right₀ (by norm_num) hplace)
        (Nat.cast_nonneg _)
    have hone : (1 : ℚ) ≤ 10 ^ j := one_le_pow₀ (by norm_num)
    calc d.value + 1 ≤ d.coefficient * 10 ^ j + 10 ^ j := by linarith
      _ = 10 ^ j * (d.coefficient + 1 : Nat) := by push_cast; ring
      _ ≤ 10 ^ j * c := by gcongr
      _ = n := by rw [hn]; push_cast; rfl
  · right
    obtain ⟨k, hk⟩ : ∃ k : Nat, d.exponent = (j + 1 + k : Nat) :=
      ⟨(d.exponent - j - 1).toNat, by omega⟩
    have hdvd : 10 ^ (j + 1) ∣ d.coefficient * 10 ^ (j + 1 + k) := ⟨d.coefficient * 10 ^ k, by ring⟩
    refine ⟨d.coefficient * 10 ^ (j + 1 + k), ?_, (dvd_pow_self 10 j.succ_ne_zero).trans hdvd, ?_⟩
    · rw [value, hk, zpow_natCast]
      push_cast
      rfl
    · intro heq
      rw [heq, hn, pow_succ] at hdvd
      exact hc (Nat.dvd_of_mul_dvd_mul_left (by positivity) hdvd)

theorem IsShortest.value_of_le (h : IsShortest m e d) (hm : 0 < m) (hn : binary m e = n)
    (hle : n ≤ 2 ^ 53) : d.value = n := by
  have hpos : n ≠ 0 := by
    rintro rfl
    have hbinary := binary_pos (e := e) hm
    rw [hn] at hbinary
    simp at hbinary
  obtain ⟨j, c, hc, hnc⟩ := Nat.exists_eq_pow_mul_and_not_dvd hpos 10 (by decide)
  have hvalue : Decimal.value ⟨c, j⟩ = n := by
    rw [Decimal.value, zpow_natCast, hnc]
    push_cast
    ring
  have hrounds : Rounds (Decimal.value ⟨c, j⟩) m e := by
    rw [hvalue, ← hn]
    exact rounds_binary h.rounds.isBinary
  rcases (h.fewest _ hrounds).eq_or_lt with hsame | hfewer
  · have hclosest := h.closest _ hrounds hsame.symm
    rw [hvalue, hn, sub_self, abs_zero] at hclosest
    linarith [abs_nonpos_iff.mp hclosest]
  · exfalso
    obtain ⟨hlow, hhigh⟩ := h.rounds.near_whole hm hn hle
    rcases Decimal.apart_of_fewer hc hnc hfewer with hless | ⟨k, hk, hten, hne⟩
    · linarith
    · rw [hk] at hlow hhigh
      have hge : n ≤ k := by
        by_contra hlt
        have hsucc : (k + 1 : ℚ) ≤ n := by exact_mod_cast not_le.mp hlt
        linarith
      have hsucc : (n + 1 : ℚ) ≤ k := by exact_mod_cast lt_of_le_of_ne hge hne.symm
      rcases hhigh with hhalf | ⟨rfl, hunit⟩
      · linarith
      · have hlast : k ≤ 2 ^ 53 + 1 := by exact_mod_cast hunit
        omega

end Runbook.Number

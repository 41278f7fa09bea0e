import Mathlib
import Runbook.Proofs.Number.Nearest

/-!
# Arithmetic rounds to the nearest number

Exact results are held as a mantissa with two more bits, which tell on what side of the middle
between two mantissas the result lies. That is enough to round it, and no shift to a larger
exponent loses it.
-/

namespace Runbook.Number

open Float.Model (UnpackedFloat Format totalExponent)
open Float.Model.UnpackedFloat (Sign Accuracy ExtendedMantissa accuracyOfFraction roundWithAccuracy
  shiftToTargetExponent)

/-! ## Mantissas with two more bits -/

/-- What the two bits say of the number `x` that the mantissa stands for. -/
def Approximates (em : ExtendedMantissa) (x : ℚ) : Prop :=
  match em.roundBit, em.stickyBit with
  | false, false => x = em.mantissa
  | false, true => em.mantissa < x ∧ x < em.mantissa + 1 / 2
  | true, false => x = em.mantissa + 1 / 2
  | true, true => em.mantissa + 1 / 2 < x ∧ x < em.mantissa + 1

variable {em : ExtendedMantissa} {x : ℚ}

theorem Approximates.mantissa_le (h : Approximates em x) :
    em.mantissa ≤ x ∧ x < em.mantissa + 1 := by
  obtain ⟨m, round, sticky⟩ := em
  cases round <;> cases sticky <;> simp only [Approximates] at h ⊢ <;> constructor <;> linarith

theorem Approximates.shiftRightOne (h : Approximates em x) :
    Approximates em.shiftRightOne (x / 2) := by
  obtain ⟨m, round, sticky⟩ := em
  obtain ⟨k, rfl | rfl⟩ := Nat.even_or_odd' m
  all_goals
    have hhalf : (2 * k + 1) / 2 = k := by omega
    cases round <;> cases sticky <;>
      simp [Approximates, ExtendedMantissa.shiftRightOne, hhalf] at h ⊢
  all_goals first | linarith | (constructor <;> linarith)

theorem Approximates.shiftRight (h : Approximates em x) (k : Nat) :
    Approximates (em >>> k) (x / 2 ^ k) := by
  change Approximates (k.repeat ExtendedMantissa.shiftRightOne em) _
  induction k with
  | zero => simpa [Nat.repeat] using h
  | succ k ih =>
    rw [Nat.repeat, pow_succ, ← div_div]
    exact ih.shiftRightOne

theorem Approximates.roundedMantissa (h : Approximates em x) :
    |x - em.roundedMantissa| ≤ 1 / 2 ∧
      (¬Even em.roundedMantissa → |x - em.roundedMantissa| < 1 / 2) := by
  obtain ⟨m, round, sticky⟩ := em
  cases round <;> cases sticky <;>
    simp only [Approximates, ExtendedMantissa.roundedMantissa, ExtendedMantissa.accuracy,
      Accuracy.roundToNearestEven] at h ⊢
  · norm_num [h]
  · rw [abs_of_nonneg (by linarith)]
    exact ⟨by linarith, fun _ => by linarith⟩
  · -- the middle: an odd mantissa goes up to the next even one
    obtain ⟨k, rfl | rfl⟩ := Nat.even_or_odd' m
    · norm_num [h]
    · have heven : 2 * k + 1 + (2 * k + 1) % 2 = 2 * (k + 1) := by omega
      have hbelow : (2 * k + 1 : Nat) + 1 / 2 - (2 * (k + 1) : Nat) = -(1 / 2 : ℚ) := by
        push_cast
        ring
      rw [h, heven, hbelow]
      norm_num
  · push_cast
    rw [abs_of_nonpos (by linarith)]
    exact ⟨by linarith, fun _ => by linarith⟩

theorem approximates_exact (m : Nat) :
    Approximates (.ofMantissaAndAccuracy m .exact) m := rfl

theorem approximates_quotient (a : Nat) {b : Nat} (hb : 0 < b) :
    Approximates (.ofMantissaAndAccuracy (a / b) (accuracyOfFraction (a % b) b)) (a / b) := by
  have hpos : (0 : ℚ) < b := by exact_mod_cast hb
  have hdiv : (a : ℚ) / b = (a / b : Nat) + (a % b : Nat) / b := by
    have hsum : (a : ℚ) = b * (a / b : Nat) + (a % b : Nat) := by
      exact_mod_cast (Nat.div_add_mod a b).symm
    rw [hsum]
    field_simp
  have hlt : ((a % b : Nat) : ℚ) / b < 1 := by
    rw [div_lt_one hpos]
    exact_mod_cast Nat.mod_lt a hb
  rw [hdiv]
  unfold accuracyOfFraction
  split_ifs with hzero
  · simp [Approximates, ExtendedMantissa.ofMantissaAndAccuracy, hzero]
  · have hfraction : 0 < ((a % b : Nat) : ℚ) / b := by
      have : (0 : ℚ) < (a % b : Nat) := by exact_mod_cast Nat.pos_of_ne_zero hzero
      positivity
    rcases hcompare : compare (2 * (a % b)) b with _ | _ | _ <;>
      simp only [Approximates, ExtendedMantissa.ofMantissaAndAccuracy]
    · have hhalf : ((a % b : Nat) : ℚ) / b < 1 / 2 := by
        rw [div_lt_div_iff₀ hpos two_pos]
        have := Nat.compare_eq_lt.mp hcompare
        exact_mod_cast (by omega : a % b * 2 < 1 * b)
      constructor <;> linarith
    · have hhalf : ((a % b : Nat) : ℚ) / b = 1 / 2 := by
        rw [div_eq_div_iff hpos.ne' two_ne_zero]
        have := Nat.compare_eq_eq.mp hcompare
        exact_mod_cast (by omega : a % b * 2 = 1 * b)
      rw [hhalf]
    · have hhalf : 1 / 2 < ((a % b : Nat) : ℚ) / b := by
        rw [div_lt_div_iff₀ two_pos hpos]
        have := Nat.compare_eq_gt.mp hcompare
        exact_mod_cast (by omega : 1 * b < a % b * 2)
      constructor <;> linarith

/-! ## Rounding a result -/

/-- A mantissa in range that is as near as a mantissa can be makes the nearest number. Below the
first full mantissa the smaller numbers are closer, so the result must not come from there. -/
theorem rounds_of_mantissa {M : Nat} {t : Int} (h : IsBinary M t) (hnear : |x - M| ≤ 1 / 2)
    (hodd : ¬Even M → |x - M| < 1 / 2) (hlow : 2 ^ 52 ≤ x ∨ t = -1074) :
    Rounds (x * 2 ^ t) M t := by
  have hpos : (0 : ℚ) < 2 ^ t := by positivity
  have hgap := gapBelow_pos (m := M) (e := t)
  have habove : binary M t + 2 ^ t / 2 = (M + 1 / 2) * 2 ^ t := by unfold binary; ring
  have hbelow : binary M t - gapBelow M t / 2 = (M - 1 / 2) * 2 ^ t ∨ binary M t ≤ x * 2 ^ t := by
    unfold gapBelow
    split_ifs with hedge
    · obtain ⟨rfl, ht⟩ := hedge
      have hx : ((2 ^ 52 : Nat) : ℚ) ≤ x := by exact_mod_cast hlow.resolve_right (by omega)
      exact .inr (mul_le_mul_of_nonneg_right hx hpos.le)
    · exact .inl (by unfold binary; ring)
  obtain ⟨hl, hh⟩ := abs_le.mp hnear
  refine rounds_of_between h ?_ ?_ fun hM => ?_
  · rcases hbelow with hbelow | hbelow
    · rw [hbelow]
      exact mul_le_mul_of_nonneg_right (by linarith) hpos.le
    · linarith
  · rw [habove]
    exact mul_le_mul_of_nonneg_right (by linarith) hpos.le
  · obtain ⟨hl, hh⟩ := abs_lt.mp (hodd hM)
    constructor
    · rcases hbelow with hbelow | hbelow
      · rw [hbelow]
        exact mul_lt_mul_of_pos_right (by linarith) hpos
      · linarith
    · rw [habove]
      exact mul_lt_mul_of_pos_right (by linarith) hpos

theorem targetExponent_eq (m : Nat) (e : Int) :
    Format.binary64.targetExponent (totalExponent m e) = max (m.log2 + e - 52) (-1074) := by
  change max ((m.log2 : ℤ) + 1 + e - 53) (-1074) = _
  congr 1
  omega

theorem shiftToTarget_of_lt {M : Nat} {t : Int} (hM : M < 2 ^ 53) (ht : -1074 ≤ t) :
    shiftToTargetExponent .binary64 M t .exact = (⟨M, false, false⟩, t) := by
  have hlog : M.log2 ≤ 52 := by
    by_cases hzero : M = 0
    · simp [hzero]
    · have := (Nat.log2_lt hzero).mpr hM
      omega
  have hshift : (max (M.log2 + t - 52) (-1074) - t).toNat = 0 := by omega
  simp only [shiftToTargetExponent, UnpackedFloat.shiftToExponent, targetExponent_eq, hshift]
  simp [ExtendedMantissa.ofMantissaAndAccuracy, HShiftRight.hShiftRight, Nat.repeat]

theorem shiftToTarget_carry {t : Int} (ht : -1074 ≤ t) :
    shiftToTargetExponent .binary64 (2 ^ 53) t .exact = (⟨2 ^ 52, false, false⟩, t + 1) := by
  have hshift : (max (((2 ^ 53).log2 : ℤ) + t - 52) (-1074) - t).toNat = 1 := by
    rw [Nat.log2_two_pow]
    omega
  simp only [shiftToTargetExponent, UnpackedFloat.shiftToExponent, targetExponent_eq, hshift]
  rfl

theorem rounds_carry {t : Int} (ht : -1074 ≤ t) (hlow : 2 ^ 53 - 1 / 2 ≤ x) (hhigh : x < 2 ^ 53) :
    Rounds (x * 2 ^ t) (2 ^ 52) (t + 1) := by
  have hpos : (0 : ℚ) < 2 ^ t := by positivity
  have hgap : gapBelow (2 ^ 52) (t + 1) = 2 ^ t := by
    rw [gapBelow, if_pos ⟨rfl, by omega⟩, add_sub_cancel_right]
  have hvalue : binary (2 ^ 52) (t + 1) = 2 ^ 53 * 2 ^ t := by
    rw [← Nat.cast_one, ← binary_shift]
    norm_num [binary]
  have hhalf : (0 : ℚ) < 2 ^ (t + 1) / 2 := by positivity
  have hupper : x * 2 ^ t < 2 ^ 53 * 2 ^ t := mul_lt_mul_of_pos_right hhigh hpos
  refine rounds_of_between ⟨by decide, by omega, .inl le_rfl⟩ ?_ ?_ fun hodd => ?_
  · rw [hvalue, hgap]
    calc (2 ^ 53 * 2 ^ t - 2 ^ t / 2 : ℚ) = (2 ^ 53 - 1 / 2) * 2 ^ t := by ring
      _ ≤ x * 2 ^ t := mul_le_mul_of_nonneg_right hlow hpos.le
  · rw [hvalue]
    linarith
  · exact absurd (by decide) hodd

theorem shifted_bounds {m k : Nat} {e t : Int} (hlow : m ≤ x) (hhigh : x < m + 1)
    (ht : max (m.log2 + e - 52) (-1074) = t) (hk : t = e + k) :
    x / 2 ^ k < 2 ^ 53 ∧ (2 ^ 52 ≤ x / 2 ^ k ∨ t = -1074) := by
  constructor
  · rw [div_lt_iff₀ (by positivity)]
    have hpow : m + 1 ≤ 2 ^ 53 * 2 ^ k := by
      rw [← pow_add]
      exact Nat.lt_log2_self.trans_le (Nat.pow_le_pow_right (by decide) (by omega))
    calc x < m + 1 := hhigh
      _ ≤ 2 ^ 53 * 2 ^ k := by exact_mod_cast hpow
  · by_cases hleast : t = -1074
    · exact .inr hleast
    · left
      have hlog : m.log2 = 52 + k := by omega
      have hm : m ≠ 0 := by
        rintro rfl
        rw [Nat.log2_zero] at hlog
        omega
      have hpow : 2 ^ 52 * 2 ^ k ≤ m := by
        rw [← pow_add, ← hlog]
        exact Nat.log2_self_le hm
      rw [le_div_iff₀ (by positivity)]
      calc (2 ^ 52 * 2 ^ k : ℚ) ≤ m := by exact_mod_cast hpow
        _ ≤ x := hlow

theorem roundWithAccuracy_eq {m : Nat} {e t : Int} {accuracy : Accuracy}
    (h : shiftToTargetExponent .binary64 m e accuracy = (em, t)) (s : Sign) :
    roundWithAccuracy .binary64 s m e accuracy =
      unpacked s (shiftToTargetExponent .binary64 em.roundedMantissa t .exact).1.mantissa
        (shiftToTargetExponent .binary64 em.roundedMantissa t .exact).2 := by
  unfold roundWithAccuracy
  rw [h]
  rfl

theorem exists_rounds (s : Sign) {m : Nat} {e : Int} {accuracy : Accuracy}
    (h : Approximates (.ofMantissaAndAccuracy m accuracy) x)
    (he : e ≤ max (m.log2 + e - 52) (-1074)) :
    ∃ M E, Rounds (x * 2 ^ e) M E ∧ roundWithAccuracy .binary64 s m e accuracy = unpacked s M E := by
  obtain ⟨t, ht⟩ : ∃ t, max (m.log2 + e - 52) (-1074) = t := ⟨_, rfl⟩
  obtain ⟨k, hk⟩ : ∃ k : Nat, t = e + k := ⟨(t - e).toNat, by omega⟩
  have hmantissa : (ExtendedMantissa.ofMantissaAndAccuracy m accuracy).mantissa = m := by
    rcases accuracy with _ | _ | _ | _ <;> rfl
  obtain ⟨hlow, hhigh⟩ := h.mantissa_le
  rw [hmantissa] at hlow hhigh
  obtain ⟨hupper, hlower⟩ := shifted_bounds hlow hhigh ht hk
  have hvalue : x * 2 ^ e = x / 2 ^ k * 2 ^ t := by
    rw [hk, zpow_add₀ two_ne_zero, zpow_natCast]
    field_simp
  have hshift : shiftToTargetExponent .binary64 m e accuracy =
      (ExtendedMantissa.ofMantissaAndAccuracy m accuracy >>> k, t) := by
    simp only [shiftToTargetExponent, UnpackedFloat.shiftToExponent, targetExponent_eq, ht]
    rw [show (t - e).toNat = k by omega, hk]
  obtain ⟨hnear, hodd⟩ := (h.shiftRight k).roundedMantissa
  rw [hvalue, roundWithAccuracy_eq hshift]
  generalize (ExtendedMantissa.ofMantissaAndAccuracy m accuracy >>> k).roundedMantissa = M at *
  generalize x / 2 ^ k = y at *
  obtain ⟨hl, hh⟩ := abs_le.mp hnear
  have hM : M < 2 ^ 53 + 1 := by
    exact_mod_cast (by linarith : (M : ℚ) < 2 ^ 53 + 1)
  rcases Nat.lt_or_eq_of_le (Nat.le_of_lt_succ hM) with hlt | rfl
  · have hbinary : IsBinary M t := by
      refine ⟨hlt, by omega, hlower.imp_left fun hlower => ?_⟩
      exact Nat.le_of_lt_succ (by exact_mod_cast (by linarith : (2 ^ 52 : ℚ) < M + 1))
    refine ⟨M, t, rounds_of_mantissa hbinary hnear hodd hlower, ?_⟩
    rw [shiftToTarget_of_lt hlt (by omega)]
  · refine ⟨2 ^ 52, t + 1, rounds_carry (by omega) ?_ hupper, ?_⟩
    · push_cast at hl hh
      linarith
    · rw [shiftToTarget_carry (by omega)]

/-! ## Operations -/

variable {m n : Nat} {e f : Int} {q : ℚ}

theorem rounds_zero (hq : 0 ≤ q) (hhalf : q ≤ 2 ^ (-1074 : ℤ) / 2) : Rounds q 0 (-1074) := by
  have hgap := gapBelow_pos (m := 0) (e := -1074)
  have hzero : binary 0 (-1074) = 0 := by simp [binary]
  refine rounds_of_between isBinary_zero ?_ ?_ fun hodd => absurd (by decide) hodd
  · rw [hzero]
    linarith
  · rwa [hzero, zero_add]

/-- A product is only shifted to larger exponents, so it needs a full mantissa from the start. -/
theorem exists_rounds_mul (hn : 0 < n) (hfull : 0 < m → 2 ^ 52 ≤ m * n) :
    ∃ M E, Rounds (binary m e * binary n f) M E ∧
      UnpackedFloat.mul .binary64 (unpacked .positive m e) (unpacked .positive n f) =
        unpacked .positive M E := by
  rw [unpacked_of_pos hn]
  rcases Nat.eq_zero_or_pos m with rfl | hm
  · refine ⟨0, -1074, ?_, ?_⟩
    · simpa [binary] using rounds_zero le_rfl (by positivity)
    · rw [unpacked_zero, unpacked_zero]
      rfl
  · have hvalue : binary m e * binary n f = (m * n : Nat) * 2 ^ (e + f) := by
      unfold binary
      rw [zpow_add₀ two_ne_zero]
      push_cast
      ring
    have hlog : 52 ≤ (m * n).log2 := (Nat.le_log2 (by positivity)).mpr (hfull hm)
    rw [hvalue, unpacked_of_pos hm]
    exact exists_rounds .positive (approximates_exact (m * n)) (by omega)

theorem divCore_exponent_le (hm : 0 < m) (hn : 0 < n) {t : Int} {k : Nat}
    (ht : min (e - f) (max (m.log2 - n.log2 + (e - f) - 53) (-1074)) = t) (hk : e - f - t = k) :
    t ≤ max (((m * 2 ^ k / n).log2 : ℤ) + t - 52) (-1074) := by
  by_cases hleast : t ≤ -1074
  · omega
  · have hfull : 2 ^ 52 ≤ m * 2 ^ k / n := by
      rw [Nat.le_div_iff_mul_le hn]
      calc 2 ^ 52 * n ≤ 2 ^ 52 * 2 ^ (n.log2 + 1) := Nat.mul_le_mul_left _ Nat.lt_log2_self.le
        _ = 2 ^ (52 + (n.log2 + 1)) := by rw [← pow_add]
        _ ≤ 2 ^ (m.log2 + k) := Nat.pow_le_pow_right (by decide) (by omega)
        _ = 2 ^ m.log2 * 2 ^ k := pow_add _ _ _
        _ ≤ m * 2 ^ k := Nat.mul_le_mul_right _ (Nat.log2_self_le hm.ne')
    have hlog : 52 ≤ (m * 2 ^ k / n).log2 := (Nat.le_log2 (by omega)).mpr hfull
    omega

theorem exists_rounds_div (hn : 0 < n) :
    ∃ M E, Rounds (binary m e / binary n f) M E ∧
      UnpackedFloat.div .binary64 (unpacked .positive m e) (unpacked .positive n f) =
        unpacked .positive M E := by
  rw [unpacked_of_pos hn]
  rcases Nat.eq_zero_or_pos m with rfl | hm
  · refine ⟨0, -1074, ?_, ?_⟩
    · simpa [binary] using rounds_zero le_rfl (by positivity)
    · rw [unpacked_zero, unpacked_zero]
      rfl
  · obtain ⟨t, ht⟩ : ∃ t, min (e - f) (max (m.log2 - n.log2 + (e - f) - 53) (-1074)) = t := ⟨_, rfl⟩
    obtain ⟨k, hk⟩ : ∃ k : Nat, e - f - t = k := ⟨(e - f - t).toNat, by omega⟩
    have hvalue : binary m e / binary n f = ((m * 2 ^ k : Nat) : ℚ) / n * 2 ^ t := by
      have he : e = f + t + k := by omega
      have hpos : (n : ℚ) ≠ 0 := by exact_mod_cast hn.ne'
      unfold binary
      rw [he, zpow_add₀ two_ne_zero, zpow_add₀ two_ne_zero, zpow_natCast]
      push_cast
      field_simp
    have hcore : UnpackedFloat.divCore .binary64 m e n f =
        (m * 2 ^ k / n, t, accuracyOfFraction (m * 2 ^ k % n) n) := by
      have htarget : min (e - f) (Format.binary64.targetExponent
          (totalExponent m e - totalExponent n f)) = t := by
        rw [← ht]
        change min (e - f) (max ((m.log2 : ℤ) + 1 + e - (n.log2 + 1 + f) - 53) (-1074)) = _
        congr 2
        omega
      simp only [UnpackedFloat.divCore, htarget, Nat.shiftLeft_eq, hk, Int.toNat_natCast]
    rw [hvalue, unpacked_of_pos hm]
    simp only [UnpackedFloat.div, hcore]
    exact exists_rounds .positive (approximates_quotient _ hn) (divCore_exponent_le hm hn ht hk)

theorem isNearest_pack (h : Rounds q m e) :
    IsNearest q (.ofModel (.pack (unpacked .positive m e))) :=
  ⟨m, e, h, parts_pack h.isBinary .positive⟩

variable {a b : Float}

theorem isNearest_mul (ha : parts a = .finite false m e) (hb : parts b = .finite false n f)
    (hn : 0 < n) (hfull : 0 < m → 2 ^ 52 ≤ m * n) :
    IsNearest (binary m e * binary n f) (a * b) := by
  obtain ⟨M, E, hrounds, hmul⟩ := exists_rounds_mul (e := e) (f := f) hn hfull
  change IsNearest _ (.ofModel (.pack (a.toModel.unpack.mul .binary64 b.toModel.unpack)))
  rw [unpack_of_parts (s := .positive) ha, unpack_of_parts (s := .positive) hb, hmul]
  exact isNearest_pack hrounds

theorem isNearest_div (ha : parts a = .finite false m e) (hb : parts b = .finite false n f)
    (hn : 0 < n) : IsNearest (binary m e / binary n f) (a / b) := by
  obtain ⟨M, E, hrounds, hdiv⟩ := exists_rounds_div (m := m) (e := e) (f := f) hn
  change IsNearest _ (.ofModel (.pack (a.toModel.unpack.div .binary64 b.toModel.unpack)))
  rw [unpack_of_parts (s := .positive) ha, unpack_of_parts (s := .positive) hb, hdiv]
  exact isNearest_pack hrounds

end Runbook.Number

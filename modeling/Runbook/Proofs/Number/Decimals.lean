import Mathlib
import Runbook.Number.Read
import Runbook.Proofs.Number.Rounding

/-! # A decimal is read as the binary number nearest to it -/

namespace Runbook.Number

open Float.Model (UnpackedFloat Format)

/-! ## Exact numbers -/

theorem log2_mul_two_pow {m : Nat} (hm : 0 < m) (k : Nat) : (m * 2 ^ k).log2 = m.log2 + k := by
  have hpos : 0 < m * 2 ^ k := Nat.mul_pos hm (Nat.two_pow_pos k)
  rw [Nat.log2_eq_iff hpos.ne', pow_add, show m.log2 + k + 1 = (m.log2 + 1) + k by omega, pow_add]
  exact ⟨Nat.mul_le_mul_right _ (Nat.log2_self_le hm.ne'),
    Nat.mul_lt_mul_of_pos_right Nat.lt_log2_self (Nat.two_pow_pos k)⟩

theorem parts_toFloat {c : Nat} (hc : c < 2 ^ 53) :
    ∃ m e, parts c.toUInt64.toFloat = .finite false m e ∧ binary m e = c := by
  have hcast : c.toUInt64.toNat = c := Nat.mod_eq_of_lt (by omega)
  change ∃ m e, parts (.ofModel (.pack (UnpackedFloat.normalize .binary64 (c.toUInt64.toNat : ℤ) 0
    .positive))) = _ ∧ _
  rw [hcast]
  rcases Nat.eq_zero_or_pos c with rfl | hpos
  · exact ⟨0, -1074, by decide, by simp [binary]⟩
  · have hlog : c.log2 < 53 := (Nat.log2_lt hpos.ne').mpr hc
    obtain ⟨k, hk⟩ : ∃ k, c.log2 + k = 52 := ⟨52 - c.log2, by omega⟩
    have hlog' := log2_mul_two_pow hpos k
    have hbinary : IsBinary (c * 2 ^ k) (-k) := by
      have hbounds := (Nat.log2_eq_iff (Nat.mul_pos hpos (Nat.two_pow_pos k)).ne').mp hlog'
      rw [hk] at hbounds
      exact ⟨hbounds.2, by omega, .inl hbounds.1⟩
    have hvalue : binary (c * 2 ^ k) (-k) = c := by
      rw [binary_shift, neg_add_cancel]
      simp [binary]
    have hround : UnpackedFloat.normalize .binary64 (c : ℤ) 0 .positive =
        UnpackedFloat.roundWithAccuracy .binary64 .positive (c * 2 ^ k) (-k) .exact := by
      have htarget : (-max ((c.log2 : ℤ) + 0 - 52) (-1074)).toNat = k := by omega
      simp only [UnpackedFloat.normalize, Int.compare_eq_gt.mpr (Int.natCast_pos.mpr hpos),
        UnpackedFloat.round, UnpackedFloat.decreaseExponent, Int.toNat_natCast, targetExponent_eq,
        zero_sub, htarget, Nat.shiftLeft_eq]
    obtain ⟨M, E, hrounds, hresult⟩ :=
      exists_rounds .positive (approximates_exact (c * 2 ^ k)) (e := -k) (by omega)
    obtain ⟨rfl, rfl⟩ := hrounds.eq_of_binary hbinary rfl
    refine ⟨c * 2 ^ k, -k, ?_, hvalue⟩
    rw [hround, hresult, parts_pack hbinary, if_pos (by omega)]
    rfl

/-- The parts are those of a full mantissa that stands for `10 ^ j`. -/
def isPowerOfTen (j : Nat) : Parts → Bool
  | .finite false m e => 2 ^ 52 ≤ m && m * 2 ^ e.toNat == 10 ^ j * 2 ^ (-e).toNat
  | _ => false

theorem isPowerOfTen_table :
    ∀ j : Fin 23, isPowerOfTen j (parts Float.exactlyRepresentablePowersOfTen[j]) = true := by
  decide

theorem binary_of_isPowerOfTen {j : Nat} {p : Parts} (h : isPowerOfTen j p = true) :
    ∃ m e, p = .finite false m e ∧ 2 ^ 52 ≤ m ∧ binary m e = 10 ^ j := by
  rcases p with _ | _ | ⟨_ | _, m, e⟩
  case finite.false =>
    simp only [isPowerOfTen, Bool.and_eq_true, decide_eq_true_eq, beq_iff_eq] at h
    obtain ⟨hfull, hvalue⟩ := h
    have hvalue : (m : ℚ) * 2 ^ e.toNat = 10 ^ j * 2 ^ (-e).toNat := by exact_mod_cast hvalue
    refine ⟨m, e, rfl, hfull, ?_⟩
    rw [binary, zpow_eq_div two_ne_zero, ← mul_div_assoc, hvalue]
    field_simp
  all_goals cases h

theorem isNearest_table {c : Nat} (hc : c < 2 ^ 53) (j : Fin 23) :
    IsNearest (c * 10 ^ j.val) (c.toUInt64.toFloat * Float.exactlyRepresentablePowersOfTen[j]) ∧
      IsNearest (c / 10 ^ j.val) (c.toUInt64.toFloat / Float.exactlyRepresentablePowersOfTen[j]) := by
  obtain ⟨m, e, hfloat, hm⟩ := parts_toFloat hc
  obtain ⟨n, f, htable, hfull, hn⟩ := binary_of_isPowerOfTen (isPowerOfTen_table j)
  rw [← hm, ← hn]
  refine ⟨isNearest_mul hfloat htable (by omega) fun hpos => ?_,
    isNearest_div hfloat htable (by omega)⟩
  exact hfull.trans (Nat.le_mul_of_pos_left n hpos)

/-! ## Decimals outside the table -/

theorem binary_limit : binary (2 ^ 52) 972 = 2 ^ 1024 := by
  rw [← one_mul (2 ^ 52), binary_shift, binary, Nat.cast_one, one_mul]
  exact zpow_natCast 2 1024

theorem Rounds.lt_exponent {m : Nat} {e : Int} {q : ℚ} (h : Rounds q m e)
    (hq : binary (2 ^ 52) 972 ≤ q) : 971 < e := by
  by_contra hle
  have hbinary : IsBinary (2 ^ 52) 972 := ⟨by decide, by decide, .inl le_rfl⟩
  have hlt := binary_lt_of_exponent_lt h.isBinary hbinary (by omega)
  have hnear := h.nearest _ _ hbinary
  rw [abs_of_pos (by linarith), abs_of_nonneg (by linarith)] at hnear
  linarith

theorem limit_le {c k : Nat} (hc : 0 < c) (hk : 1024 ≤ k) :
    binary (2 ^ 52) 972 ≤ c * 10 ^ k := by
  have hone : (1 : ℚ) ≤ c := by exact_mod_cast hc
  calc binary (2 ^ 52) 972 = 2 ^ 1024 := binary_limit
    _ ≤ 2 ^ k := pow_le_pow_right₀ (by norm_num) hk
    _ ≤ 10 ^ k := pow_le_pow_left₀ (by norm_num) (by norm_num) k
    _ ≤ c * 10 ^ k := le_mul_of_one_le_left (by positivity) hone

theorem le_half_least {c k : Nat} (hk : 2048 + c.log2 < k) :
    (c : ℚ) / 10 ^ k ≤ 2 ^ (-1074 : ℤ) / 2 := by
  have hc : (c : ℚ) ≤ 2 ^ (c.log2 + 1) := by exact_mod_cast Nat.lt_log2_self.le
  have hhalf : (2 : ℚ) ^ (-1074 : ℤ) / 2 = 1 / 2 ^ 1075 := by
    rw [zpow_neg, pow_succ, one_div, mul_inv, div_eq_mul_inv]
    congr 2
  rw [hhalf, div_le_div_iff₀ (by positivity) (by positivity), one_mul]
  calc (c : ℚ) * 2 ^ 1075 ≤ 2 ^ (c.log2 + 1) * 2 ^ 1075 := by gcongr
    _ = 2 ^ (c.log2 + 1 + 1075) := (pow_add ..).symm
    _ ≤ 2 ^ k := pow_le_pow_right₀ (by norm_num) (by omega)
    _ ≤ 10 ^ k := pow_le_pow_left₀ (by norm_num) (by norm_num) k

theorem isNearest_ofScientific_pow {c : Nat} (hc : 0 < c) (k : Nat) :
    IsNearest (c * 10 ^ k) (.ofModel (Float.Model.ofScientific c k)) := by
  have hvalue : binary (c * 2 ^ 53) (-53) * binary (10 ^ k) 0 = c * 10 ^ k := by
    rw [binary_shift]
    simp [binary]
  have hfull : 2 ^ 52 ≤ c * 2 ^ 53 * 10 ^ k := by
    have hpow : 1 ≤ 10 ^ k := Nat.one_le_pow _ _ (by decide)
    nlinarith
  obtain ⟨M, E, hrounds, hmul⟩ := exists_rounds_mul (m := c * 2 ^ 53) (n := 10 ^ k) (e := -53)
    (f := 0) (by positivity) fun _ => hfull
  rw [hvalue] at hrounds
  rw [unpacked_of_pos (by positivity), unpacked_of_pos (by positivity)] at hmul
  change IsNearest _ (.ofModel (.pack (UnpackedFloat.ofScientific .binary64 c k)))
  rw [UnpackedFloat.ofScientific, dif_neg hc.ne']
  split_ifs with hhuge htiny hwhole
  · change (2 ^ 11 : ℤ) < k at hhuge
    refine ⟨M, E, hrounds, ?_⟩
    rw [if_neg (not_le.mpr (hrounds.lt_exponent (limit_le hc (by omega))))]
    exact parts_infinity
  · change (k : ℤ) < -(2 ^ 11 + c.log2) at htiny
    omega
  · simp only [Int.toNat_natCast, Nat.shiftLeft_eq]
    exact hmul ▸ isNearest_pack hrounds
  · omega

theorem isNearest_ofScientific_neg {c : Nat} (hc : 0 < c) {k : Nat} (hk : 0 < k) :
    IsNearest (c / 10 ^ k) (.ofModel (Float.Model.ofScientific c (-k))) := by
  have hvalue : binary c 0 / binary (10 ^ k) 0 = c / 10 ^ k := by simp [binary]
  change IsNearest _ (.ofModel (.pack (UnpackedFloat.ofScientific .binary64 c (-k))))
  rw [UnpackedFloat.ofScientific, dif_neg hc.ne']
  split_ifs with hhuge htiny hwhole
  · change (2 ^ 11 : ℤ) < -k at hhuge
    omega
  · change -(k : ℤ) < -(2 ^ 11 + c.log2) at htiny
    exact isNearest_pack (rounds_zero (by positivity) (le_half_least (by omega)))
  · omega
  · obtain ⟨M, E, hrounds, hdiv⟩ :=
      exists_rounds_div (m := c) (n := 10 ^ k) (e := 0) (f := 0) (by positivity)
    rw [hvalue] at hrounds
    rw [unpacked_of_pos hc, unpacked_of_pos (by positivity)] at hdiv
    simp only [neg_neg, Int.toNat_natCast]
    exact hdiv ▸ isNearest_pack hrounds

theorem isNearest_ofScientific (c : Nat) (k : Int) :
    IsNearest (c * 10 ^ k) (.ofModel (Float.Model.ofScientific c k)) := by
  rcases Nat.eq_zero_or_pos c with rfl | hc
  · refine isNearest_pack (m := 0) (e := -1074) ?_
    simpa using rounds_zero le_rfl (by positivity)
  · rcases lt_or_ge k 0 with hk | hk
    · obtain ⟨k, rfl⟩ : ∃ n : Nat, k = -n := ⟨(-k).toNat, by omega⟩
      rw [zpow_neg, zpow_natCast, ← div_eq_mul_inv]
      exact isNearest_ofScientific_neg hc (by omega)
    · obtain ⟨k, rfl⟩ := Int.eq_ofNat_of_zero_le hk
      rw [zpow_natCast]
      exact isNearest_ofScientific_pow hc k

/-! ## All decimals -/

theorem isNearest_nearest (c : Nat) (k : Int) : IsNearest (c * 10 ^ k) (nearest c k) := by
  unfold nearest Float.ofScientific
  rcases lt_or_ge k 0 with hk | hk
  · have hpow : (c : ℚ) * 10 ^ k = c / 10 ^ k.natAbs := by
      rw [← zpow_natCast, Int.ofNat_natAbs_of_nonpos hk.le, zpow_neg, div_inv_eq_mul]
    simp only [hk, decide_true, if_true]
    split_ifs with hsmall
    · rw [hpow]
      exact (isNearest_table hsmall.1 ⟨k.natAbs, by omega⟩).2
    · rw [Int.negOfNat_eq, Int.ofNat_eq_natCast, Int.ofNat_natAbs_of_nonpos hk.le, neg_neg]
      exact isNearest_ofScientific c k
  · have hpow : (c : ℚ) * 10 ^ k = c * 10 ^ k.natAbs := by
      rw [← zpow_natCast, Int.natAbs_of_nonneg hk]
    simp only [not_lt.mpr hk, decide_false, Bool.false_eq_true, if_false]
    split_ifs with hsmall
    · rw [hpow]
      exact (isNearest_table hsmall.1 ⟨k.natAbs, by omega⟩).1
    · rw [Int.ofNat_eq_natCast, Int.natAbs_of_nonneg hk]
      exact isNearest_ofScientific c k

end Runbook.Number

import Mathlib
import Runbook.Number.Shortest
import Runbook.Proofs.Number.Nearest

/-!
# The shortest decimal of a number is rounded to that number again

A decimal is only taken if it lies between the middles to the number's neighbours, and with
seventeen digits one of the two decimals next to the number does.
-/

namespace Runbook.Number

variable {m : Nat} {e : Int}

/-! ## Fractions -/

def Ratio.value (r : Ratio) : ℚ := r.num / r.den

def Decimal.value (d : Decimal) : ℚ := d.coefficient * 10 ^ d.exponent

theorem Ratio.value_ofBinary (m : Nat) (e : Int) : (ofBinary m e).value = binary m e := by
  unfold value ofBinary binary
  rw [zpow_eq_div two_ne_zero, Nat.pow_eq, Nat.pow_eq]
  push_cast
  ring

theorem Ratio.value_shift (r : Ratio) (k : Int) : (r.shift k).value = r.value / 10 ^ k := by
  have hpos : (10 : ℚ) ^ (-k).toNat ≠ 0 := by positivity
  unfold value shift
  rw [zpow_eq_div (by norm_num) k, Nat.pow_eq, Nat.pow_eq]
  push_cast
  field_simp

theorem Ratio.den_ofBinary (m : Nat) (e : Int) : 0 < (ofBinary m e).den := Nat.two_pow_pos _

theorem Ratio.den_shift {r : Ratio} (h : 0 < r.den) (k : Int) : 0 < (r.shift k).den :=
  Nat.mul_pos h (Nat.pow_pos (by decide))

theorem Ratio.value_le_value_iff {r s : Ratio} (hr : 0 < r.den) (hs : 0 < s.den) :
    r.value ≤ s.value ↔ r.num * s.den ≤ s.num * r.den := by
  unfold value
  rw [div_le_div_iff₀ (by exact_mod_cast hr) (by exact_mod_cast hs)]
  norm_cast

theorem Ratio.value_lt_value_iff {r s : Ratio} (hr : 0 < r.den) (hs : 0 < s.den) :
    r.value < s.value ↔ r.num * s.den < s.num * r.den := by
  unfold value
  rw [div_lt_div_iff₀ (by exact_mod_cast hr) (by exact_mod_cast hs)]
  norm_cast

/-! ## Reading back -/

theorem binary_quarter (m : Nat) (e : Int) : binary (4 * m) (e - 2) = binary m e := by
  have hshift := binary_shift m (e - 2) 2
  rwa [show e - 2 + (2 : Nat) = e by omega, mul_comm] at hshift

theorem value_high (m : Nat) (e : Int) :
    (Ratio.ofBinary (4 * m + 2) (e - 2)).value = binary m e + 2 ^ e / 2 := by
  rw [Ratio.value_ofBinary, ← binary_quarter m e, binary, binary, zpow_sub₀ two_ne_zero]
  push_cast
  ring

theorem value_low (hm : 0 < m) (e : Int) :
    (Ratio.ofBinary (4 * m - if m = Nat.pow 2 52 && -1074 < e then 1 else 2) (e - 2)).value =
      binary m e - gapBelow m e / 2 := by
  rw [Ratio.value_ofBinary, ← binary_quarter m e, gapBelow]
  simp only [Nat.pow_eq, Bool.and_eq_true, decide_eq_true_eq]
  split_ifs
  · rw [binary, binary, Nat.cast_sub (by omega), zpow_sub₀ two_ne_zero, zpow_sub₀ two_ne_zero]
    push_cast
    ring
  · rw [binary, binary, Nat.cast_sub (by omega), zpow_sub₀ two_ne_zero]
    push_cast
    ring

theorem readsBack_iff (hm : 0 < m) {d : Ratio} (hd : 0 < d.den) :
    readsBack m e d = true ↔
      (binary m e - gapBelow m e / 2 ≤ d.value ∧ d.value ≤ binary m e + 2 ^ e / 2) ∧
        (¬Even m → binary m e - gapBelow m e / 2 < d.value ∧ d.value < binary m e + 2 ^ e / 2) := by
  rw [← value_low hm, ← value_high]
  by_cases heven : m % 2 = 0
  · simp [readsBack, heven, Nat.even_iff, Ratio.value_le_value_iff, hd, Ratio.den_ofBinary]
  · have hodd : ¬Even m := Nat.even_iff.not.mpr heven
    simp only [readsBack, if_neg heven, Bool.and_eq_true, decide_eq_true_eq, hodd,
      not_false_eq_true, true_imp_iff, Ratio.value_le_value_iff, Ratio.value_lt_value_iff, hd,
      Ratio.den_ofBinary]
    exact ⟨fun h => ⟨⟨le_of_lt h.1, le_of_lt h.2⟩, h⟩, And.right⟩

/-! ## Decimals with a given number of digits -/

def lastPlace (mantissa : Nat) (exponent : Int) (digits : Nat) : Int :=
  (Ratio.ofBinary mantissa exponent).point - digits

/-- The coefficient of the decimal just below a number. -/
def floorAt (mantissa : Nat) (exponent : Int) (place : Int) : Nat :=
  let scaled := (Ratio.ofBinary mantissa exponent).shift place
  scaled.num / scaled.den

def fits (mantissa : Nat) (exponent : Int) (d : Decimal) : Bool :=
  readsBack mantissa exponent ((Ratio.mk d.coefficient 1).shift (-d.exponent))

/-- Whether the decimal just below a number is taken if both neighbours read back. -/
def takesLower (tie : Tie) (mantissa : Nat) (exponent : Int) (place : Int) : Bool :=
  let scaled := (Ratio.ofBinary mantissa exponent).shift place
  let below := scaled.num / scaled.den
  let twice := 2 * scaled.num
  let middle := (2 * below + 1) * scaled.den
  twice < middle || (twice = middle && tie == .toEven && below % 2 = 0)

theorem withDigits?_eq (tie : Tie) {digits below : Nat} {place : Int}
    (hplace : lastPlace m e digits = place) (hbelow : floorAt m e place = below) :
    withDigits? tie m e digits =
      match fits m e ⟨below, place⟩, fits m e ⟨below + 1, place⟩ with
      | true, true => some ⟨if takesLower tie m e place then below else below + 1, place⟩
      | true, false => some ⟨below, place⟩
      | false, true => some ⟨below + 1, place⟩
      | false, false => none := by
  subst hplace hbelow
  rfl

variable {tie : Tie} {digits : Nat} {d : Decimal}

theorem fits_of_withDigits? (h : withDigits? tie m e digits = some d) : fits m e d = true := by
  rw [withDigits?_eq tie rfl rfl] at h
  generalize takesLower tie m e (lastPlace m e digits) = lower at h
  split at h <;> cases h
  · cases lower <;> assumption
  all_goals assumption

theorem exists_withDigits? (h : ∀ below, floorAt m e (lastPlace m e digits) = below →
      fits m e ⟨below, lastPlace m e digits⟩ = true ∨
        fits m e ⟨below + 1, lastPlace m e digits⟩ = true) :
    ∃ d, withDigits? tie m e digits = some d := by
  rw [withDigits?_eq tie rfl rfl]
  split
  case h_4 hbelow habove => simp [hbelow, habove] at h
  all_goals exact ⟨_, rfl⟩

theorem fits_iff (hm : 0 < m) :
    fits m e d = true ↔
      (binary m e - gapBelow m e / 2 ≤ d.value ∧ d.value ≤ binary m e + 2 ^ e / 2) ∧
        (¬Even m → binary m e - gapBelow m e / 2 < d.value ∧ d.value < binary m e + 2 ^ e / 2) := by
  have hvalue : ((Ratio.mk d.coefficient 1).shift (-d.exponent)).value = d.value := by
    rw [Ratio.value_shift, Ratio.value, Decimal.value, zpow_neg, div_inv_eq_mul, Nat.cast_one,
      div_one]
  rw [← hvalue]
  exact readsBack_iff hm (Ratio.den_shift Nat.one_pos _)

theorem rounds_of_fits (h : IsBinary m e) (hm : 0 < m) (hfits : fits m e d = true) :
    Rounds d.value m e := by
  obtain ⟨⟨hlow, hhigh⟩, hodd⟩ := (fits_iff hm).mp hfits
  exact rounds_of_between h hlow hhigh hodd

/-! ## Seventeen digits are enough -/

theorem pow_digitCount_le {n : Nat} (hn : 0 < n) : 10 ^ (digitCount n - 1) ≤ n := by
  rcases Nat.eq_zero_or_pos (digitCount n - 1) with hzero | hpos
  · rw [hzero]
    exact hn
  · by_contra hlt
    have := (Nat.length_toDigits_le_iff (by decide : 1 < 10) hpos).mpr (not_le.mp hlt)
    unfold digitCount at this hpos
    omega

theorem lt_pow_digitCount (n : Nat) : n < 10 ^ digitCount n :=
  (Nat.length_toDigits_le_iff (by decide) Nat.length_toDigits_pos).mp le_rfl

theorem Ratio.pow_point_le {r : Ratio} (hnum : 0 < r.num) (hden : 0 < r.den) :
    (10 : ℚ) ^ (r.point - 1) ≤ r.value := by
  have hden' : (0 : ℚ) < r.den := by exact_mod_cast hden
  unfold point value
  rw [le_div_iff₀ hden']
  split_ifs with hle
  · have hquot : 0 < r.num / r.den := Nat.div_pos hle hden
    have hcount : 1 ≤ digitCount (r.num / r.den) := Nat.length_toDigits_pos
    have hpow : 10 ^ (digitCount (r.num / r.den) - 1) * r.den ≤ r.num :=
      (Nat.mul_le_mul_right _ (pow_digitCount_le hquot)).trans (Nat.div_mul_le_self _ _)
    rw [← Nat.cast_one, ← Nat.cast_sub hcount, zpow_natCast]
    exact_mod_cast hpow
  · have hpow : r.den ≤ r.num * 10 ^ digitCount (r.den / r.num) :=
      ((Nat.div_lt_iff_lt_mul hnum).mp (lt_pow_digitCount _)).le.trans_eq (mul_comm _ _)
    rw [sub_sub_cancel_left, zpow_neg, zpow_natCast, inv_mul_le_iff₀ (by positivity), mul_comm]
    exact_mod_cast hpow

theorem floorAt_bounds (m : Nat) (e place : Int) :
    Decimal.value ⟨floorAt m e place, place⟩ ≤ binary m e ∧
      binary m e < Decimal.value ⟨floorAt m e place + 1, place⟩ := by
  obtain ⟨r, hr⟩ : ∃ r, (Ratio.ofBinary m e).shift place = r := ⟨_, rfl⟩
  have hden : 0 < r.den := hr ▸ Ratio.den_shift (Ratio.den_ofBinary m e) place
  have hden' : (0 : ℚ) < r.den := by exact_mod_cast hden
  have hpos : (0 : ℚ) < 10 ^ place := by positivity
  have hvalue : binary m e = r.value * 10 ^ place := by
    rw [← hr, Ratio.value_shift, Ratio.value_ofBinary]
    field_simp
  have hfloor : floorAt m e place = r.num / r.den := by rw [← hr]; rfl
  rw [hvalue, hfloor]
  constructor
  · refine mul_le_mul_of_nonneg_right ?_ hpos.le
    rw [Ratio.value, le_div_iff₀ hden']
    exact_mod_cast Nat.div_mul_le_self _ _
  · refine mul_lt_mul_of_pos_right ?_ hpos
    rw [Ratio.value, div_lt_iff₀ hden']
    exact_mod_cast (Nat.lt_mul_div_succ _ hden).trans_eq (mul_comm _ _)

theorem value_succ (n : Nat) (place : Int) :
    Decimal.value ⟨n + 1, place⟩ = Decimal.value ⟨n, place⟩ + 10 ^ place := by
  unfold Decimal.value
  push_cast
  ring

theorem pow_lastPlace_le (hm : 0 < m) : (10 : ℚ) ^ 16 * 10 ^ lastPlace m e 17 ≤ binary m e := by
  have hnum : 0 < (Ratio.ofBinary m e).num := Nat.mul_pos hm (Nat.two_pow_pos _)
  have hpoint := Ratio.pow_point_le hnum (Ratio.den_ofBinary m e)
  rw [Ratio.value_ofBinary] at hpoint
  have hplace : (Ratio.ofBinary m e).point - 1 = (16 : Nat) + lastPlace m e 17 := by
    unfold lastPlace
    omega
  rwa [hplace, zpow_add₀ (by norm_num), zpow_natCast] at hpoint

theorem exists_withDigits?_seventeen (tie : Tie) (h : IsBinary m e) (hm : 0 < m) :
    ∃ d, withDigits? tie m e 17 = some d := by
  have hunit := pow_lastPlace_le (e := e) hm
  refine exists_withDigits? fun below hbelow => ?_
  obtain ⟨hle, hlt⟩ := floorAt_bounds m e (lastPlace m e 17)
  have hsucc := value_succ below (lastPlace m e 17)
  have hpos : (0 : ℚ) < 2 ^ e := by positivity
  have hgap := gapBelow_pos (m := m) (e := e)
  rw [hbelow] at hle hlt
  rw [fits_iff hm, fits_iff hm]
  by_cases hnear : Decimal.value ⟨below + 1, lastPlace m e 17⟩ < binary m e + 2 ^ e / 2
  · exact .inr ⟨⟨by linarith, hnear.le⟩, fun _ => ⟨by linarith, hnear⟩⟩
  -- the decimal above is too far away: then the gap below is a whole one and the other is near
  · left
    have hwhole : gapBelow m e = 2 ^ e := by
      refine if_neg fun hedge => ?_
      have hvalue : binary m e = 2 ^ 52 * 2 ^ e := by
        rw [binary, hedge.1, Nat.cast_pow, Nat.cast_ofNat]
      linarith
    have hwidth : (10 : ℚ) ^ 16 * 10 ^ lastPlace m e 17 < 2 ^ 53 * 2 ^ e := by
      refine hunit.trans_lt (mul_lt_mul_of_pos_right ?_ hpos)
      exact_mod_cast h.lt
    rw [hwhole]
    exact ⟨⟨by linarith, by linarith⟩, fun _ => ⟨by linarith, by linarith⟩⟩

/-! ## The shortest decimal -/

theorem Decimal.value_strip (fuel : Nat) (d : Decimal) : (d.strip fuel).value = d.value := by
  fun_induction strip fuel d with
  | case1 => rfl
  | case2 fuel d hzeros ih =>
    simp only [ne_eq, Bool.and_eq_true, decide_eq_true_eq] at hzeros
    have hten : d.coefficient = d.coefficient / 10 * 10 := by omega
    rw [ih, value, value, zpow_add_one₀ (by norm_num)]
    conv_rhs => rw [hten]
    push_cast
    ring
  | case3 => rfl

theorem shortestFrom_eq (tie : Tie) (h : IsBinary m e) (hm : 0 < m) (more digits : Nat)
    (hmore : digits + more = 17) :
    ∃ k d, digits ≤ k ∧ k ≤ 17 ∧ withDigits? tie m e k = some d ∧
      (∀ j, digits ≤ j → j < k → withDigits? tie m e j = none) ∧
      shortestFrom tie m e more digits = d.strip 20 := by
  induction more generalizing digits with
  | zero =>
    obtain rfl : digits = 17 := hmore
    obtain ⟨d, hd⟩ := exists_withDigits?_seventeen tie h hm
    refine ⟨17, d, le_rfl, le_rfl, hd, by omega, ?_⟩
    rw [shortestFrom, hd]
    rfl
  | succ more ih =>
    cases hd : withDigits? tie m e digits with
    | some d =>
      refine ⟨digits, d, le_rfl, by omega, hd, by omega, ?_⟩
      simp only [shortestFrom, hd]
    | none =>
      obtain ⟨k, d, hk, hle, hfound, hnone, hresult⟩ := ih (digits + 1) (by omega)
      refine ⟨k, d, by omega, hle, hfound, fun j hj hlt => ?_, ?_⟩
      · rcases Nat.eq_or_lt_of_le hj with rfl | hj
        · exact hd
        · exact hnone j hj hlt
      · simp only [shortestFrom, hd]
        exact hresult

theorem shortest_eq (tie : Tie) (h : IsBinary m e) (hm : 0 < m) :
    ∃ k d, 1 ≤ k ∧ k ≤ 17 ∧ withDigits? tie m e k = some d ∧
      (∀ j, 1 ≤ j → j < k → withDigits? tie m e j = none) ∧ shortest tie m e = d.strip 20 :=
  shortestFrom_eq tie h hm 16 1 rfl

theorem rounds_shortest (tie : Tie) (h : IsBinary m e) (hm : 0 < m) :
    Rounds (shortest tie m e).value m e := by
  obtain ⟨k, d, -, -, hd, -, hshortest⟩ := shortest_eq tie h hm
  rw [hshortest, Decimal.value_strip]
  exact rounds_of_fits h hm (fits_of_withDigits? hd)

end Runbook.Number

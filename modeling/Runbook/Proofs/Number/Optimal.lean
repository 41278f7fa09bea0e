import Mathlib
import Runbook.Proofs.Number.Shortest

/-!
# Shortest decimals are optimal

No decimal that reads back has fewer digits than the shortest decimal of a number, and none with
as few digits is nearer. The two decimals next to the number have every other decimal with at most
as many digits on their far sides, so if one of those reads back, the nearer neighbour does.
-/

namespace Runbook.Number

variable {m : Nat} {e : Int} {tie : Tie} {digits : Nat} {d : Decimal}

/-- Of the decimals that are rounded to `m * 2 ^ e`, this one has the fewest digits, and of those
with as few digits it is the closest. -/
structure IsShortest (mantissa : Nat) (exponent : Int) (d : Decimal) : Prop where
  rounds : Rounds d.value mantissa exponent
  fewest : ∀ other : Decimal, Rounds other.value mantissa exponent →
    digitCount d.coefficient ≤ digitCount other.coefficient
  closest : ∀ other : Decimal, Rounds other.value mantissa exponent →
    digitCount other.coefficient = digitCount d.coefficient →
    |d.value - binary mantissa exponent| ≤ |other.value - binary mantissa exponent|

/-! ## The decimals next to a number -/

theorem digitCount_pos (n : Nat) : 0 < digitCount n := Nat.length_toDigits_pos

theorem digitCount_le_iff {n k : Nat} (hk : 0 < k) : digitCount n ≤ k ↔ n < 10 ^ k :=
  Nat.length_toDigits_le_iff (by decide) hk

theorem two_pow_ne_mul_ten_pow {n j k : Nat} (hk : 0 < k) : n * 10 ^ k ≠ 2 ^ j := by
  intro h
  have hten : 5 ∣ 10 ^ k := dvd_pow (by decide) hk.ne'
  have hfive : 5 ∣ 2 ^ j := h ▸ hten.mul_left n
  have htwo := Nat.prime_five.dvd_of_dvd_pow hfive
  omega

theorem binary_lt_pow_point (hm : 0 < m) : binary m e < 10 ^ (Ratio.ofBinary m e).point := by
  rw [← Ratio.value_ofBinary]
  have hden := Ratio.den_ofBinary m e
  have hnum : 0 < (Ratio.ofBinary m e).num := Nat.mul_pos hm (Nat.two_pow_pos _)
  have htwo : (Ratio.ofBinary m e).den = 2 ^ (-e).toNat := rfl
  generalize Ratio.ofBinary m e = r at hden hnum htwo ⊢
  have hden' : (0 : ℚ) < r.den := by exact_mod_cast hden
  unfold Ratio.point Ratio.value
  rw [div_lt_iff₀ hden']
  split_ifs with hle
  · have hlt := (Nat.div_lt_iff_lt_mul hden).mp (lt_pow_digitCount (r.num / r.den))
    rw [zpow_natCast]
    exact_mod_cast hlt
  · have hcount := digitCount_pos (r.den / r.num)
    obtain ⟨k, hk⟩ : ∃ k, digitCount (r.den / r.num) = k + 1 := ⟨_, (Nat.succ_pred hcount.ne').symm⟩
    have hpow : r.num * 10 ^ k ≤ r.den := by
      have hquot := pow_digitCount_le (Nat.div_pos (not_le.mp hle).le hnum)
      rw [hk, Nat.add_sub_cancel] at hquot
      rw [mul_comm]
      exact (Nat.mul_le_mul_right _ hquot).trans (Nat.div_mul_le_self _ _)
    have hne : r.num * 10 ^ k ≠ r.den := by
      rcases Nat.eq_zero_or_pos k with rfl | hpos
      · omega
      · rw [htwo]
        exact two_pow_ne_mul_ten_pow hpos
    have hpoint : (1 : ℤ) - (k + 1 : Nat) = -k := by omega
    rw [hk, hpoint, zpow_neg, zpow_natCast, lt_inv_mul_iff₀ (by positivity), mul_comm]
    exact_mod_cast lt_of_le_of_ne hpow hne

theorem pow_place_mul (m : Nat) (e : Int) (digits : Nat) :
    (10 : ℚ) ^ digits * 10 ^ lastPlace m e digits = 10 ^ (Ratio.ofBinary m e).point := by
  rw [← zpow_natCast, ← zpow_add₀ (by norm_num), lastPlace, add_sub_cancel]

theorem floorAt_lt (hm : 0 < m) (digits : Nat) :
    floorAt m e (lastPlace m e digits) < 10 ^ digits := by
  have hfloor := (floorAt_bounds m e (lastPlace m e digits)).1
  have hpoint := binary_lt_pow_point (e := e) hm
  have hpos : (0 : ℚ) < 10 ^ lastPlace m e digits := by positivity
  rw [← pow_place_mul m e digits] at hpoint
  have hlt := lt_of_mul_lt_mul_right (hfloor.trans_lt hpoint) hpos.le
  exact_mod_cast hlt

theorem le_floorAt (hm : 0 < m) (digits : Nat) (hdigits : 0 < digits) :
    10 ^ (digits - 1) ≤ floorAt m e (lastPlace m e digits) := by
  have hnum : 0 < (Ratio.ofBinary m e).num := Nat.mul_pos hm (Nat.two_pow_pos _)
  have hpoint := Ratio.pow_point_le hnum (Ratio.den_ofBinary m e)
  have hfloor := (floorAt_bounds m e (lastPlace m e digits)).2
  have hpos : (0 : ℚ) < 10 ^ lastPlace m e digits := by positivity
  have hplace : (Ratio.ofBinary m e).point - 1 = (digits - 1 : Nat) + lastPlace m e digits := by
    unfold lastPlace
    omega
  rw [Ratio.value_ofBinary, hplace, zpow_add₀ (by norm_num), zpow_natCast] at hpoint
  have hlt := lt_of_mul_lt_mul_right (hpoint.trans_lt hfloor) hpos.le
  exact Nat.lt_succ_iff.mp (by exact_mod_cast hlt)

theorem value_eq_of_place_le {place : Int} (h : place ≤ d.exponent) :
    d.value = Decimal.value ⟨d.coefficient * 10 ^ (d.exponent - place).toNat, place⟩ := by
  have hexponent : d.exponent = ((d.exponent - place).toNat : ℤ) + place := by omega
  unfold Decimal.value
  conv_lhs => rw [hexponent, zpow_add₀ (by norm_num), zpow_natCast]
  push_cast
  ring

theorem value_le_value {n k : Nat} {place : Int} :
    Decimal.value ⟨n, place⟩ ≤ Decimal.value ⟨k, place⟩ ↔ n ≤ k := by
  have hpos : (0 : ℚ) < 10 ^ place := by positivity
  unfold Decimal.value
  rw [mul_le_mul_iff_left₀ hpos, Nat.cast_le]

theorem beyond_neighbours (hm : 0 < m) (hd : digitCount d.coefficient ≤ digits) {below : Nat}
    (hbelow : floorAt m e (lastPlace m e digits) = below) :
    d.value ≤ Decimal.value ⟨below, lastPlace m e digits⟩ ∨
      Decimal.value ⟨below + 1, lastPlace m e digits⟩ ≤ d.value := by
  have hdigits : 0 < digits := (digitCount_pos _).trans_le hd
  rcases le_or_gt (lastPlace m e digits) d.exponent with hplace | hplace
  · rw [value_eq_of_place_le hplace, value_le_value, value_le_value]
    exact Nat.lt_or_ge _ _ |>.imp Nat.lt_succ_iff.mp id
  -- with a digit further to the right there are too few of them to reach the first place
  · left
    have hcoefficient : d.coefficient < 10 ^ digits := (digitCount_le_iff hdigits).mp hd
    have hfirst := le_floorAt (e := e) hm digits hdigits
    rw [hbelow] at hfirst
    calc d.value ≤ 10 ^ digits * 10 ^ d.exponent := by
          unfold Decimal.value
          gcongr
          exact_mod_cast hcoefficient.le
      _ ≤ 10 ^ (digits - 1) * 10 ^ lastPlace m e digits := by
          rw [← zpow_natCast, ← zpow_natCast, ← zpow_add₀ (by norm_num), ← zpow_add₀ (by norm_num)]
          exact zpow_le_zpow_right₀ (by norm_num) (by omega)
      _ ≤ Decimal.value ⟨below, lastPlace m e digits⟩ := by
          unfold Decimal.value
          gcongr
          exact_mod_cast hfirst

/-! ## The nearer neighbour -/

theorem fits_of_between {other : Decimal} (hm : 0 < m) (h : Rounds d.value m e)
    (hbetween : d.value ≤ other.value ∧ other.value ≤ binary m e ∨
      binary m e ≤ other.value ∧ other.value ≤ d.value) : fits m e other = true := by
  obtain ⟨⟨hlow, hhigh⟩, hodd⟩ := between_of_rounds h hm
  have hpos : (0 : ℚ) < 2 ^ e := by positivity
  have hgap := gapBelow_pos (m := m) (e := e)
  rw [fits_iff hm]
  rcases hbetween with ⟨h1, h2⟩ | ⟨h1, h2⟩
  · exact ⟨⟨by linarith, by linarith⟩, fun h => ⟨by linarith [(hodd h).1], by linarith⟩⟩
  · exact ⟨⟨by linarith, by linarith⟩, fun h => ⟨by linarith, by linarith [(hodd h).2]⟩⟩

/-- The neighbour on the same side of the number as a decimal that reads back is at least as near,
and it reads back. -/
theorem neighbour_of_rounds (hm : 0 < m) (h : Rounds d.value m e)
    (hd : digitCount d.coefficient ≤ digits) {place : Int} {below : Nat}
    (hplace : lastPlace m e digits = place) (hbelow : floorAt m e place = below) :
    fits m e ⟨below, place⟩ = true ∧
        binary m e - Decimal.value ⟨below, place⟩ ≤ |d.value - binary m e| ∨
      fits m e ⟨below + 1, place⟩ = true ∧
        Decimal.value ⟨below + 1, place⟩ - binary m e ≤ |d.value - binary m e| := by
  subst hplace
  have hbounds := floorAt_bounds m e (lastPlace m e digits)
  rw [hbelow] at hbounds
  obtain ⟨hlow, hhigh⟩ := hbounds
  rcases beyond_neighbours hm hd hbelow with hle | hge
  · refine .inl ⟨fits_of_between hm h (.inl ⟨hle, hlow⟩), ?_⟩
    rw [abs_of_nonpos (by linarith)]
    linarith
  · refine .inr ⟨fits_of_between hm h (.inr ⟨hhigh.le, hge⟩), ?_⟩
    rw [abs_of_nonneg (by linarith)]
    linarith

theorem takesLower_bounds (tie : Tie) (m : Nat) (e place : Int) {below : Nat}
    (hbelow : floorAt m e place = below) :
    if takesLower tie m e place then
      2 * binary m e ≤ Decimal.value ⟨below, place⟩ + Decimal.value ⟨below + 1, place⟩
    else Decimal.value ⟨below, place⟩ + Decimal.value ⟨below + 1, place⟩ ≤ 2 * binary m e := by
  obtain ⟨r, hr⟩ : ∃ r, (Ratio.ofBinary m e).shift place = r := ⟨_, rfl⟩
  have hden : (0 : ℚ) < r.den := by
    exact_mod_cast hr ▸ Ratio.den_shift (Ratio.den_ofBinary m e) place
  have hpos : (0 : ℚ) < 10 ^ place := by positivity
  have hvalue : binary m e = r.value * 10 ^ place := by
    rw [← hr, Ratio.value_shift, Ratio.value_ofBinary]
    field_simp
  have hsum : Decimal.value ⟨below, place⟩ + Decimal.value ⟨below + 1, place⟩ =
      (2 * below + 1) * 10 ^ place := by
    unfold Decimal.value
    push_cast
    ring
  have hfloor : r.num / r.den = below := by rw [← hbelow, ← hr]; rfl
  have htakes : takesLower tie m e place = (decide (2 * r.num < (2 * below + 1) * r.den) ||
      (decide (2 * r.num = (2 * below + 1) * r.den) && tie == .toEven && decide (below % 2 = 0))) := by
    rw [← hfloor, ← hr]
    rfl
  rw [hsum, hvalue, ← mul_assoc, mul_le_mul_iff_left₀ hpos, mul_le_mul_iff_left₀ hpos, Ratio.value,
    ← mul_div_assoc, div_le_iff₀ hden, le_div_iff₀ hden]
  split_ifs with hlower
  · have hle : 2 * r.num ≤ (2 * below + 1) * r.den := by
      simp only [htakes, Bool.or_eq_true, Bool.and_eq_true, decide_eq_true_eq] at hlower
      omega
    exact_mod_cast hle
  · have hge : (2 * below + 1) * r.den ≤ 2 * r.num := by
      simp only [htakes, Bool.or_eq_true, decide_eq_true_eq, not_or] at hlower
      omega
    exact_mod_cast hge

theorem closest_of_withDigits? {other : Decimal} (hm : 0 < m)
    (h : withDigits? tie m e digits = some d) (hother : Rounds other.value m e)
    (hcount : digitCount other.coefficient ≤ digits) :
    |d.value - binary m e| ≤ |other.value - binary m e| := by
  obtain ⟨place, hplace⟩ : ∃ place, lastPlace m e digits = place := ⟨_, rfl⟩
  obtain ⟨below, hbelow⟩ : ∃ below, floorAt m e place = below := ⟨_, rfl⟩
  have hside := neighbour_of_rounds hm hother hcount hplace hbelow
  have hnearer := takesLower_bounds tie m e place hbelow
  obtain ⟨hlow, hhigh⟩ := floorAt_bounds m e place
  rw [hbelow] at hlow hhigh
  rw [withDigits?_eq tie hplace hbelow] at h
  have habsLow : |Decimal.value ⟨below, place⟩ - binary m e| =
      binary m e - Decimal.value ⟨below, place⟩ := by
    rw [abs_of_nonpos (by linarith)]
    ring
  have habsHigh : |Decimal.value ⟨below + 1, place⟩ - binary m e| =
      Decimal.value ⟨below + 1, place⟩ - binary m e := abs_of_pos (by linarith)
  split at h <;> cases h
  · split_ifs at hnearer ⊢
    · rw [habsLow]
      rcases hside with ⟨-, h⟩ | ⟨-, h⟩ <;> linarith
    · rw [habsHigh]
      rcases hside with ⟨-, h⟩ | ⟨-, h⟩ <;> linarith
  · rename_i hfits hnot
    rw [habsLow]
    rcases hside with ⟨-, h⟩ | ⟨h, -⟩
    · exact h
    · rw [h] at hnot
      cases hnot
  · rename_i hnot hfits
    rw [habsHigh]
    rcases hside with ⟨h, -⟩ | ⟨-, h⟩
    · rw [h] at hnot
      cases hnot
    · exact h

theorem exists_withDigits?_of_rounds (tie : Tie) {other : Decimal} (hm : 0 < m)
    (hother : Rounds other.value m e) (hcount : digitCount other.coefficient ≤ digits) :
    ∃ d, withDigits? tie m e digits = some d := by
  refine exists_withDigits? fun below hbelow => ?_
  exact (neighbour_of_rounds hm hother hcount rfl hbelow).imp And.left And.left

/-! ## The digits that are left -/

theorem coefficient_of_withDigits? (hm : 0 < m) (h : withDigits? tie m e digits = some d) :
    d.coefficient ≤ 10 ^ digits := by
  have hlt := floorAt_lt (e := e) hm digits
  rw [withDigits?_eq tie rfl rfl] at h
  split at h <;> cases h
  · change (if _ then _ else _) ≤ _
    split_ifs
    · exact hlt.le
    · exact hlt
  · exact hlt.le
  · exact hlt

theorem digitCount_strip {fuel k : Nat} (hd : d.coefficient ≤ 10 ^ k) (hk : k ≤ fuel) :
    digitCount (d.strip fuel).coefficient ≤ max k 1 := by
  fun_induction Decimal.strip fuel d generalizing k with
  | case1 d =>
    obtain rfl : k = 0 := Nat.le_zero.mp hk
    rw [digitCount_le_iff (by decide)]
    exact hd.trans_lt (by decide)
  | case2 fuel d hzeros ih =>
    simp only [ne_eq, Bool.and_eq_true, decide_eq_true_eq] at hzeros
    cases k with
    | zero => omega
    | succ k =>
      have htenth : d.coefficient / 10 ≤ 10 ^ k := by
        rw [pow_succ] at hd
        omega
      have hstrip := ih htenth (by omega)
      omega
  | case3 fuel d hzeros =>
    rw [digitCount_le_iff (by omega)]
    cases k with
    | zero => exact hd.trans_lt (by decide)
    | succ k =>
      rw [max_eq_left (by omega)]
      refine lt_of_le_of_ne hd fun hpower => hzeros ?_
      simp [hpower, pow_succ]

/-! ## The shortest decimal -/

theorem isShortest_shortest (tie : Tie) (h : IsBinary m e) (hm : 0 < m) :
    IsShortest m e (shortest tie m e) := by
  obtain ⟨k, d, hk, hle, hd, hnone, hshortest⟩ := shortest_eq tie h hm
  have hcount : digitCount (shortest tie m e).coefficient ≤ k := by
    have hstrip : digitCount (d.strip 20).coefficient ≤ max k 1 :=
      digitCount_strip (coefficient_of_withDigits? hm hd) (by omega)
    rw [hshortest]
    omega
  refine ⟨rounds_shortest tie h hm, fun other hother => ?_, fun other hother hsame => ?_⟩
  · by_contra hfewer
    obtain ⟨found, hfound⟩ := exists_withDigits?_of_rounds tie hm hother le_rfl
    rw [hnone _ (digitCount_pos _) (by omega)] at hfound
    cases hfound
  · rw [hshortest, Decimal.value_strip]
    exact closest_of_withDigits? hm hd hother (by omega)

end Runbook.Number

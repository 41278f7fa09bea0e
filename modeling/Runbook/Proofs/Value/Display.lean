import Mathlib
import Runbook.Proofs.Number.Whole
import Runbook.Proofs.Value.RoundTrip

/-!
# How numbers are shown, next to what JavaScript prescribes

The digits, the place of the point and the choice of an exponent part agree, but whole numbers
below `10 ^ 21` are shown with all their digits, also where fewer of them read back.
-/

namespace Runbook

namespace Number

variable {m n : Nat} {e f : Int} {d : Decimal} {negative : Bool} {x y : Float}

/-! ## The prescribed texts -/

/-- Digits with the point after the first `place` of them. Zeros fill up what is missing on either
side, and a point with nothing after it is left out. -/
def pointed (digits : List Char) (place : Int) : List Char :=
  if place ≤ 0 then '0' :: '.' :: (List.replicate (-place).toNat '0' ++ digits)
  else if place < digits.length then digits.take place.toNat ++ '.' :: digits.drop place.toNat
  else digits ++ List.replicate (place - digits.length).toNat '0'

def powered (digits : List Char) (power : Int) : List Char :=
  digits.take 1 ++ (if digits.length = 1 then [] else '.' :: digits.drop 1) ++
    'e' :: (if power < 0 then '-' else '+') :: Nat.toDigits 10 power.natAbs

/-- The texts that JavaScript prescribes for a finite number: its shortest digits, written without
an exponent part from `1e-6` up to but not including `1e21`, and zero without a sign. There are two
of them if two shortest decimals are equally close. -/
inductive JavaScriptText (x : Float) : String → Prop where
  | zero (h : (x == 0) = true) : JavaScriptText x "0"
  | number {negative : Bool} {m : Nat} {e : Int} {d : Decimal} (h : parts x = .finite negative m e)
    (hm : 0 < m) (hd : IsShortest m e d) :
    JavaScriptText x ((if negative then "-" else "") ++ String.ofList
      (if 1e-6 ≤ x.abs ∧ x.abs < 1e21 then pointed (Nat.toDigits 10 d.coefficient) (d.power + 1)
      else powered (Nat.toDigits 10 d.coefficient) d.power))

/-! ## The order of numbers -/

theorem parts_abs (h : parts x = .finite negative m e) : parts x.abs = .finite false m e := by
  obtain ⟨hbinary, he⟩ := isBinary_of_parts h
  have habs : ∀ s, (unpacked s m e).abs = unpacked .positive m e := by
    intro s
    unfold unpacked
    split <;> rfl
  obtain ⟨s, -, hx⟩ := exists_unpacked h
  change parts (.ofModel (.pack x.toModel.unpack.abs)) = _
  rw [hx, habs, parts_pack hbinary, if_pos he]
  rfl

theorem compare_unpacked (hx : IsBinary m e) (hy : IsBinary n f) (hm : 0 < m) (hn : 0 < n) :
    (unpacked .positive m e).compare (unpacked .positive n f) =
      some (Ord.compare (binary m e) (binary n f)) := by
  rw [unpacked_of_pos hm, unpacked_of_pos hn]
  simp only [Float.Model.UnpackedFloat.compare, Option.some.injEq]
  rcases lt_trichotomy e f with hlt | rfl | hgt
  · rw [compare_lt_iff_lt.mpr hlt, compare_lt_iff_lt.mpr (binary_lt_of_exponent_lt hx hy hlt)]
    rfl
  · rw [compare_eq_iff_eq.mpr rfl, Ordering.eq_then]
    have hpos : (0 : ℚ) < 2 ^ e := by positivity
    unfold binary
    rcases lt_trichotomy m n with hlt | rfl | hgt
    · rw [compare_lt_iff_lt.mpr hlt, eq_comm, compare_lt_iff_lt]
      gcongr
    · rw [compare_eq_iff_eq.mpr rfl, compare_eq_iff_eq.mpr rfl]
    · rw [compare_gt_iff_gt.mpr hgt, eq_comm, compare_gt_iff_gt]
      gcongr
  · rw [compare_gt_iff_gt.mpr hgt, compare_gt_iff_gt.mpr (binary_lt_of_exponent_lt hy hx hgt)]
    rfl

theorem lt_iff_binary (hx : parts x = .finite false m e) (hy : parts y = .finite false n f)
    (hm : 0 < m) (hn : 0 < n) : x < y ↔ binary m e < binary n f := by
  have hcompare := compare_unpacked (isBinary_of_parts hx).1 (isBinary_of_parts hy).1 hm hn
  rw [lt_iff_unpacked, unpack_of_parts (s := .positive) hx, unpack_of_parts (s := .positive) hy,
    hcompare, Option.some.injEq, compare_lt_iff_lt]

theorem le_iff_binary (hx : parts x = .finite false m e) (hy : parts y = .finite false n f)
    (hm : 0 < m) (hn : 0 < n) : x ≤ y ↔ binary m e ≤ binary n f := by
  have hcompare := compare_unpacked (isBinary_of_parts hx).1 (isBinary_of_parts hy).1 hm hn
  have hle : x ≤ y ↔ (x.toModel.unpack.compare y.toModel.unpack).any (·.isLE) = true := by
    change decide (x.toModel ≤ y.toModel) = true ↔ _
    rw [decide_eq_true_iff]
    rfl
  rw [hle, unpack_of_parts (s := .positive) hx, unpack_of_parts (s := .positive) hy, hcompare,
    Option.any_some, ← Ordering.ne_gt_iff_isLE, compare_gt_iff_gt.not, not_lt]

/-! ## Where exponents begin -/

theorem Decimal.power_add_one (d : Decimal) :
    d.power + 1 = d.exponent + digitCount d.coefficient := by
  unfold power
  omega

theorem Decimal.power_bounds (hd : 0 < d.coefficient) :
    (10 : ℚ) ^ d.power ≤ d.value ∧ d.value < 10 ^ (d.power + 1) := by
  have hcount := digitCount_pos d.coefficient
  have hpos : (0 : ℚ) < 10 ^ d.exponent := by positivity
  have hhigh := d.power_add_one
  have hlow : d.power = (digitCount d.coefficient - 1 : Nat) + d.exponent := by omega
  constructor
  · rw [hlow, zpow_add₀ (by norm_num), zpow_natCast, value, mul_le_mul_iff_left₀ hpos]
    exact_mod_cast pow_digitCount_le hd
  · rw [hhigh, add_comm, zpow_add₀ (by norm_num), zpow_natCast, value, mul_lt_mul_iff_left₀ hpos]
    exact_mod_cast lt_pow_digitCount d.coefficient

theorem le_power_iff {k : Int} (hk : Rounds (10 ^ k) n f) (hpower : (shortest .up n f).power = k)
    (h : IsBinary m e) (hm : 0 < m) : binary n f ≤ binary m e ↔ k ≤ (shortest .up m e).power := by
  have hshortest := isShortest_shortest .up h hm
  obtain ⟨hlow, hhigh⟩ := Decimal.power_bounds (hshortest.coefficient_pos hm)
  constructor
  · intro hle
    rcases eq_or_lt_of_le hle with heq | hlt
    · obtain ⟨rfl, rfl⟩ := binary_inj hk.isBinary h heq
      exact hpower.ge
    · by_contra hless
      have hvalue : (shortest .up m e).value ≤ 10 ^ k :=
        hhigh.le.trans (zpow_le_zpow_right₀ (by norm_num) (by omega))
      exact absurd (hshortest.rounds.mono hk hvalue) (not_le.mpr hlt)
  · intro hpowers
    exact hk.mono hshortest.rounds ((zpow_le_zpow_right₀ (by norm_num) hpowers).trans hlow)

theorem parts_micro : parts 1e-6 = .finite false 4722366482869645 (-72) := by decide

theorem parts_sextillion : parts 1e21 = .finite false 7629394531250000 17 := by decide

theorem micro_le_iff (h : parts x = .finite negative m e) (hm : 0 < m) :
    1e-6 ≤ x.abs ↔ -6 ≤ (shortest .up m e).power := by
  have hrounds : Rounds (10 ^ (-6 : ℤ)) 4722366482869645 (-72) := by
    have hnearest := isNearest_nearest 1 (-6)
    rw [Nat.cast_one, one_mul] at hnearest
    exact hnearest.rounds (by decide)
  rw [le_iff_binary parts_micro (parts_abs h) (by decide) hm]
  exact le_power_iff hrounds (by decide) (isBinary_of_parts h).1 hm

theorem binary_sextillion : binary 7629394531250000 17 = 10 ^ 21 := by
  norm_num [binary]

theorem lt_sextillion_iff (h : parts x = .finite negative m e) (hm : 0 < m) :
    x.abs < 1e21 ↔ (shortest .up m e).power < 21 := by
  have hbinary := (isBinary_of_parts parts_sextillion).1
  have hrounds : Rounds (10 ^ (21 : ℤ)) 7629394531250000 17 := by
    have hself := rounds_binary hbinary
    rw [binary_sextillion] at hself
    exact_mod_cast hself
  rw [lt_iff_binary (parts_abs h) parts_sextillion hm (by decide), ← not_le, ← not_le]
  exact (le_power_iff hrounds (by decide) (isBinary_of_parts h).1 hm).not

/-! ## Layouts -/

theorem positional_eq_pointed (d : Decimal) :
    positional "" d = String.ofList (pointed (Nat.toDigits 10 d.coefficient) (d.power + 1)) := by
  have hcount := digitCount_pos d.coefficient
  have hlength : (Nat.toDigits 10 d.coefficient).length = digitCount d.coefficient := rfl
  rw [d.power_add_one]
  simp only [positional, pointed]
  generalize Nat.toDigits 10 d.coefficient = ds at hlength ⊢
  rw [← hlength] at hcount ⊢
  split_ifs with hexponent hsmall hinner hsmall hinner
  · omega
  · omega
  · rw [add_sub_cancel_right]
    simp
  -- the point stands before all digits
  · obtain ⟨k, hk⟩ : ∃ k : Nat, -d.exponent = ds.length + k :=
      ⟨(-d.exponent - ds.length).toNat, by omega⟩
    have hplaces : (-d.exponent).toNat = ds.length + k := by omega
    have hzeros : (-(d.exponent + ds.length)).toNat = k := by omega
    have hpad : ds.length + k + 1 - ds.length = k + 1 := by omega
    have hwhole : ('0' :: (List.replicate k '0' ++ ds)).length - (ds.length + k) = 1 := by
      simp
      omega
    simp only [hplaces, hzeros, hpad, List.replicate_succ, List.cons_append, hwhole]
    rfl
  -- it stands among them
  · have hpad : (-d.exponent).toNat + 1 - ds.length = 0 := by omega
    have hwhole : ds.length - (-d.exponent).toNat = (d.exponent + ds.length).toNat := by omega
    simp only [hpad, List.replicate_zero, List.nil_append, hwhole]
  · omega

theorem scientific_eq_powered (d : Decimal) :
    scientific "+" d = String.ofList (powered (Nat.toDigits 10 d.coefficient) d.power) := by
  have hcount := digitCount_pos d.coefficient
  have hlength : (Nat.toDigits 10 d.coefficient).length = digitCount d.coefficient := rfl
  have hsucc := d.power_add_one
  have hpower : d.exponent + (digitCount d.coefficient - 1 : Nat) = d.power := by omega
  simp only [scientific, powered, hlength, hpower]
  generalize Nat.toDigits 10 d.coefficient = ds at hlength ⊢
  have hsingle : digitCount d.coefficient ≤ 1 ↔ digitCount d.coefficient = 1 := by omega
  rw [← String.toList_inj]
  simp only [hsingle, String.toList_append, String.toList_ofList]
  split_ifs <;> simp

/-! ## Whole numbers -/

theorem toDigits_eq_pointed_iff (hd : 0 < d.coefficient) :
    Nat.toDigits 10 n = pointed (Nat.toDigits 10 d.coefficient) (d.power + 1) ↔
      0 ≤ d.exponent ∧ d.value = n := by
  have hcount := digitCount_pos d.coefficient
  have hlength : (Nat.toDigits 10 d.coefficient).length = digitCount d.coefficient := rfl
  have hpoint : '.' ∉ Nat.toDigits 10 n := by
    intro hmem
    cases digits_toDigits n '.' hmem
  rw [d.power_add_one]
  constructor
  · intro h
    unfold pointed at h
    split_ifs at h with hsmall hinner
    · rw [h] at hpoint
      simp at hpoint
    · rw [h] at hpoint
      simp at hpoint
    · obtain ⟨k, hk⟩ := Int.eq_ofNat_of_zero_le (a := d.exponent) (by omega)
      have hvalue := congrArg Text.decimalValue h
      rw [decimalValue_append_zeros, decimalValue_toDigits, decimalValue_toDigits, hlength,
        add_sub_cancel_right, hk, Int.toNat_natCast] at hvalue
      refine ⟨by omega, ?_⟩
      rw [Decimal.value, hk, zpow_natCast, hvalue]
      push_cast
      rfl
  · rintro ⟨hexponent, hvalue⟩
    obtain ⟨k, hk⟩ := Int.eq_ofNat_of_zero_le hexponent
    rw [Decimal.value, hk, zpow_natCast] at hvalue
    have hn : d.coefficient * 10 ^ k = n := by exact_mod_cast hvalue
    unfold pointed
    rw [← hn, toDigits_mul_pow hd, if_neg (by omega), if_neg (by omega), hlength,
      add_sub_cancel_right, hk, Int.toNat_natCast]

/-! ## Numbers and their texts -/

/-- A whole number below `10 ^ 21` that has more digits than it takes to read it back. -/
def Overlong (mantissa : Nat) (exponent : Int) : Prop :=
  (∃ n : Nat, n < 10 ^ 21 ∧ binary mantissa exponent = n) ∧
    ∃ d, IsShortest mantissa exponent d ∧ d.value ≠ binary mantissa exponent

theorem JavaScriptText.exists_shortest {text : String} (htext : JavaScriptText x text)
    (h : parts x = .finite negative m e) (hm : 0 < m) :
    ∃ d, IsShortest m e d ∧ text = (if negative then "-" else "") ++ String.ofList
      (if 1e-6 ≤ x.abs ∧ x.abs < 1e21 then pointed (Nat.toDigits 10 d.coefficient) (d.power + 1)
      else powered (Nat.toDigits 10 d.coefficient) d.power) := by
  cases htext with
  | zero hzero => exact absurd ((beq_zero_iff h).mp hzero) hm.ne'
  | number h' hm' hd =>
    rw [h] at h'
    obtain ⟨rfl, rfl, rfl⟩ := Parts.finite.inj h'
    exact ⟨_, hd, rfl⟩

theorem inRange_iff (h : parts x = .finite negative m e) (hm : 0 < m) :
    (1e-6 ≤ x.abs ∧ x.abs < 1e21) ↔
      (-6 ≤ (shortest .up m e).power && (shortest .up m e).power < 21) = true := by
  rw [micro_le_iff h hm, lt_sextillion_iff h hm, Bool.and_eq_true, decide_eq_true_iff,
    decide_eq_true_iff]

theorem inRange_of_whole (h : parts x = .finite negative m e) (hm : 0 < m)
    (hn : binary m e = n) (hlt : n < 10 ^ 21) : 1e-6 ≤ x.abs ∧ x.abs < 1e21 := by
  have hone : (1 : ℚ) ≤ n := by
    have hpos := binary_pos (e := e) hm
    rw [hn] at hpos
    exact_mod_cast hpos
  constructor
  · rw [le_iff_binary parts_micro (parts_abs h) (by decide) hm, hn]
    refine le_trans ?_ hone
    norm_num [binary]
  · rw [lt_iff_binary (parts_abs h) parts_sextillion hm (by decide), hn, binary_sextillion]
    exact_mod_cast hlt

theorem magnitude_of_whole (h : parts x = .finite negative m e) (hm : 0 < m)
    (hn : binary m e = n) (hlt : n < 10 ^ 21) :
    plain.magnitude m e = String.ofList (Nat.toDigits 10 n) := by
  rw [magnitude_eq m e rfl, if_pos ((inRange_iff h hm).mp (inRange_of_whole h hm hn hlt)),
    whole?_eq_some_iff.mpr hn, ← String.toList_inj]
  simp

theorem magnitude_of_not_overlong (h : parts x = .finite negative m e) (hm : 0 < m)
    (hnot : ¬Overlong m e) :
    plain.magnitude m e = String.ofList
      (if 1e-6 ≤ x.abs ∧ x.abs < 1e21 then
        pointed (Nat.toDigits 10 (shortest .up m e).coefficient) ((shortest .up m e).power + 1)
      else powered (Nat.toDigits 10 (shortest .up m e).coefficient) (shortest .up m e).power) := by
  have hshortest := isShortest_shortest .up (isBinary_of_parts h).1 hm
  by_cases hrange : 1e-6 ≤ x.abs ∧ x.abs < 1e21
  · rw [if_pos hrange]
    cases hwhole : whole? m e with
    | some n =>
      have hn := whole?_eq_some_iff.mp hwhole
      have hlt : n < 10 ^ 21 := by
        have hless := (lt_iff_binary (parts_abs h) parts_sextillion hm (by decide)).mp hrange.2
        rw [hn, binary_sextillion] at hless
        exact_mod_cast hless
      have hvalue : (shortest .up m e).value = n := by
        by_contra hne
        exact hnot ⟨⟨n, hlt, hn⟩, _, hshortest, hn ▸ hne⟩
      have hdigits := (toDigits_eq_pointed_iff (hshortest.coefficient_pos hm)).mpr
        ⟨hshortest.exponent_nonneg hm hvalue, hvalue⟩
      rw [magnitude_of_whole h hm hn hlt, hdigits]
    | none =>
      rw [magnitude_eq m e rfl, if_pos ((inRange_iff h hm).mp hrange), hwhole, positional_eq_pointed]
  · rw [if_neg hrange, magnitude_eq m e rfl, if_neg (mt (inRange_iff h hm).mpr hrange),
      scientific_eq_powered]

theorem not_overlong_zero : ¬Overlong 0 e := by
  rintro ⟨-, d, hd, hne⟩
  have hzero : Decimal.value ⟨0, 0⟩ = binary 0 e := by simp [Decimal.value, binary]
  have hshortest : IsShortest 0 e ⟨0, 0⟩ := by
    refine ⟨hzero ▸ rounds_binary hd.rounds.isBinary, fun other _ => digitCount_pos _,
      fun other _ _ => ?_⟩
    rw [hzero, sub_self, abs_zero]
    exact abs_nonneg _
  exact hne (hd.value_eq hshortest hzero)

theorem Overlong.lt (h : Overlong m e) : 2 ^ 53 < binary m e := by
  rcases Nat.eq_zero_or_pos m with rfl | hm
  · exact absurd h not_overlong_zero
  · obtain ⟨⟨n, -, hn⟩, d, hd, hne⟩ := h
    by_contra hle
    rw [hn, not_lt] at hle
    exact hne ((hd.value_of_le hm hn (by exact_mod_cast hle)).trans hn.symm)

theorem write_of_pos (h : parts x = .finite negative m e) (hm : 0 < m) :
    plain.write x = (if negative then "-" else "") ++ plain.magnitude m e := by
  simp [Layout.write, h, hm.ne']

theorem javaScriptText_of_not_overlong (h : parts x = .finite negative m e) (hnot : ¬Overlong m e) :
    JavaScriptText x (plain.write x) := by
  rcases Nat.eq_zero_or_pos m with rfl | hm
  · have hwrite : plain.write x = "0" := by simp [Layout.write, h, plain]
    rw [hwrite]
    exact .zero ((beq_zero_iff h).mpr rfl)
  · rw [write_of_pos h hm, magnitude_of_not_overlong h hm hnot]
    exact .number h hm (isShortest_shortest .up (isBinary_of_parts h).1 hm)

theorem not_javaScriptText_of_overlong (h : parts x = .finite negative m e) (hover : Overlong m e) :
    ¬JavaScriptText x (plain.write x) := by
  intro htext
  have hm : 0 < m := Nat.pos_of_ne_zero (by rintro rfl; exact not_overlong_zero hover)
  obtain ⟨⟨n, hlt, hn⟩, d, hd, hne⟩ := hover
  obtain ⟨other, hother, heq⟩ := htext.exists_shortest h hm
  rw [write_of_pos h hm, magnitude_of_whole h hm hn hlt, if_pos (inRange_of_whole h hm hn hlt)] at heq
  have hdigits : Nat.toDigits 10 n =
      pointed (Nat.toDigits 10 other.coefficient) (other.power + 1) := by
    have hlist := congrArg String.toList heq
    simpa using hlist
  have hvalue := ((toDigits_eq_pointed_iff (hother.coefficient_pos hm)).mp hdigits).2
  exact hne (hd.value_eq hother (hvalue.trans hn.symm))

end Number

namespace Value

open Number

/-- A number is shown as JavaScript prescribes, unless it is whole, below `10 ^ 21` and has more
digits than it takes to read it back. Only whole numbers above `2 ^ 53` have. -/
theorem display_javaScript_iff {x : Float} {negative : Bool} {m : Nat} {e : Int}
    (h : parts x = .finite negative m e) :
    (JavaScriptText x (display (.num x)) ↔ ¬Overlong m e) ∧
      (Overlong m e → 2 ^ 53 < binary m e) :=
  ⟨⟨fun htext hover => not_javaScriptText_of_overlong h hover htext,
    javaScriptText_of_not_overlong h⟩, Overlong.lt⟩

theorem display_javaScript_iff_small :
    parts (-2.5e-8) = .finite true 7555786372591432 (-78) ∧ ¬Overlong 7555786372591432 (-78) ∧
      JavaScriptText (-2.5e-8) (display (.num (-2.5e-8))) ∧
      display (.num (-2.5e-8)) = "-2.5e-8" := by
  have hparts : parts (-2.5e-8) = .finite true 7555786372591432 (-78) := by decide
  have hnot : ¬Overlong 7555786372591432 (-78) := by
    rintro ⟨⟨n, -, hn⟩, -⟩
    have hwhole := whole?_eq_some_iff.mpr hn
    rw [(by decide : whole? 7555786372591432 (-78) = none)] at hwhole
    cases hwhole
  exact ⟨hparts, hnot, (display_javaScript_iff hparts).1.mpr hnot, by decide⟩

/-- Twenty digits are shown where seventeen and three zeros are prescribed. -/
theorem display_not_javaScript :
    display (.num 18446744073709551616) = "18446744073709551616" ∧
      ¬JavaScriptText 18446744073709551616 (display (.num 18446744073709551616)) ∧
      JavaScriptText 18446744073709551616 "18446744073709552000" := by
  have hparts : parts 18446744073709551616 = .finite false (2 ^ 52) 12 := by decide
  have hvalue : binary (2 ^ 52) 12 = (18446744073709551616 : Nat) := by norm_num [binary]
  have hdigits : shortest .up (2 ^ 52) 12 = ⟨18446744073709552, 3⟩ := by decide
  have hshortest := isShortest_shortest .up (isBinary_of_parts hparts).1 (by decide)
  rw [hdigits] at hshortest
  have hrange := inRange_of_whole hparts (by decide) hvalue (by decide)
  refine ⟨?_, not_javaScriptText_of_overlong hparts
    ⟨⟨_, by decide, hvalue⟩, _, hshortest, ?_⟩, ?_⟩
  · change plain.write 18446744073709551616 = _
    rw [write_of_pos hparts (by decide),
      magnitude_of_whole hparts (by decide) hvalue (by decide)]
    decide
  · rw [hvalue]
    norm_num [Decimal.value]
  · have htext := JavaScriptText.number hparts (by decide) hshortest
    rw [if_pos hrange] at htext
    exact htext

end Value

end Runbook

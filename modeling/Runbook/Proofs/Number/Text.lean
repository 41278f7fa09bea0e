import Mathlib
import Runbook.Value.Basic
import Runbook.Proofs.Expr.Literals
import Runbook.Proofs.Number.Decimals
import Runbook.Proofs.Number.Shortest

/-!
# The texts of numbers are numerals

The digits of a decimal may be written with zeros after them, with a point among them or with an
exponent part, and each time the numeral is worth the decimal.
-/

namespace Runbook.Number

open Grammar (Numeral Digits)

variable {m : Nat} {e : Int}

/-! ## What a numeral is worth exactly -/

def exact (n : Numeral) : ℚ :=
  Text.decimalValue (n.whole ++ n.fraction) *
    10 ^ ((n.exponent.map Grammar.Exponent.value).getD 0 - n.fraction.length)

theorem isNearest_value (n : Numeral) : IsNearest (exact n) n.value := isNearest_nearest _ _

/-- The text is a numeral worth exactly `q`. -/
def Writes (text : String) (q : ℚ) : Prop := ∃ n : Numeral, text.toList = n.text ∧ exact n = q

theorem digits_toDigits (n : Nat) : Digits (Nat.toDigits 10 n) :=
  fun _ hc => Nat.isDigit_of_mem_toDigits (by decide) (by decide) hc

theorem digits_replicate_zero (k : Nat) : Digits (List.replicate k '0') := by
  intro c hc
  rw [List.eq_of_mem_replicate hc]
  rfl

theorem digits_append {cs ds : List Char} (hcs : Digits cs) (hds : Digits ds) : Digits (cs ++ ds) :=
  fun c hc => (List.mem_append.mp hc).elim (hcs c) (hds c)

theorem decimalValue_toDigits (n : Nat) : Text.decimalValue (Nat.toDigits 10 n) = n :=
  Nat.ofDigitChars_ten_toDigits

theorem decimalValue_append_zeros (cs : List Char) (k : Nat) :
    Text.decimalValue (cs ++ List.replicate k '0') = Text.decimalValue cs * 10 ^ k := by
  change Nat.ofDigitChars 10 (cs ++ List.replicate k '0') 0 = Nat.ofDigitChars 10 cs 0 * 10 ^ k
  rw [Nat.ofDigitChars_append, Nat.ofDigitChars_replicate_zero, mul_comm]

theorem decimalValue_zeros_append (cs : List Char) (k : Nat) :
    Text.decimalValue (List.replicate k '0' ++ cs) = Text.decimalValue cs := by
  change Nat.ofDigitChars 10 (List.replicate k '0' ++ cs) 0 = Nat.ofDigitChars 10 cs 0
  rw [Nat.ofDigitChars_append, Nat.ofDigitChars_replicate_zero, mul_zero]

/-! ## The layouts -/

theorem writes_whole {text : String} {ds : List Char} (htext : text.toList = ds) (hds : Digits ds)
    (hne : ds ≠ []) : Writes text (Text.decimalValue ds) :=
  ⟨⟨ds, [], none, hds, by simp [Digits], .inl hne⟩,
    by simp [htext, Numeral.text, Numeral.fractionText, Numeral.exponentText], by simp [exact]⟩

theorem writes_point {text : String} {ds : List Char} {k : Nat}
    (htext : text.toList = ds.take (ds.length - k) ++ '.' :: ds.drop (ds.length - k))
    (hds : Digits ds) (hk : 0 < k) (hlen : k < ds.length) :
    Writes text (Text.decimalValue ds / 10 ^ k) := by
  have hdrop : ds.drop (ds.length - k) ≠ [] := by
    rw [ne_eq, List.drop_eq_nil_iff]
    omega
  refine ⟨⟨ds.take (ds.length - k), ds.drop (ds.length - k), none,
    fun c hc => hds c (List.mem_of_mem_take hc), fun c hc => hds c (List.mem_of_mem_drop hc),
    .inr hdrop⟩, ?_, ?_⟩
  · simp [htext, Numeral.text, Numeral.fractionText, Numeral.exponentText, hdrop]
  · have hlast : ds.length - (ds.length - k) = k := by omega
    simp [exact, List.take_append_drop, hlast, div_eq_mul_inv]

theorem writes_positional (d : Decimal) : Writes (positional "" d) d.value := by
  unfold positional
  split_ifs with hexponent
  · obtain ⟨k, hk⟩ := Int.eq_ofNat_of_zero_le hexponent
    have hvalue : d.value = Text.decimalValue
        (Nat.toDigits 10 d.coefficient ++ List.replicate d.exponent.toNat '0') := by
      rw [decimalValue_append_zeros, decimalValue_toDigits, Decimal.value, hk]
      simp
    rw [hvalue]
    refine writes_whole (by simp) (digits_append (digits_toDigits _) (digits_replicate_zero _)) ?_
    simp
  · obtain ⟨k, hk⟩ : ∃ k : Nat, d.exponent = -k := ⟨(-d.exponent).toNat, by omega⟩
    have hvalue : d.value = Text.decimalValue (List.replicate
        (k + 1 - (Nat.toDigits 10 d.coefficient).length) '0' ++ Nat.toDigits 10 d.coefficient) /
          10 ^ k := by
      rw [decimalValue_zeros_append, decimalValue_toDigits, Decimal.value, hk, zpow_neg,
        zpow_natCast, div_eq_mul_inv]
    rw [hvalue]
    refine writes_point ?_ (digits_append (digits_replicate_zero _) (digits_toDigits _))
      (by omega) ?_
    · rw [hk]
      simp
    · rw [List.length_append, List.length_replicate]
      omega

def exponentOf (power : Int) : Grammar.Exponent where
  mark := 'e'
  sign := some (if power < 0 then '-' else '+')
  digits := Nat.toDigits 10 power.natAbs
  mark_mem := by decide
  sign_mem := by
    intro c hc
    obtain rfl := Option.some.inj hc
    split <;> decide
  digits_ne_nil := Nat.toDigits_ne_nil
  digits_digits := digits_toDigits _

theorem value_exponentOf (power : Int) : (exponentOf power).value = power := by
  have hdigits : Text.decimalValue (exponentOf power).digits = power.natAbs :=
    decimalValue_toDigits _
  rw [Grammar.Exponent.value, hdigits]
  by_cases hneg : power < 0
  · rw [if_pos (by simp [exponentOf, hneg]), Int.ofNat_natAbs_of_nonpos hneg.le, neg_neg]
  · rw [if_neg (by simp [exponentOf, hneg]), Int.natAbs_of_nonneg (not_lt.mp hneg)]

theorem writes_scientific (d : Decimal) : Writes (scientific "+" d) d.value := by
  obtain ⟨ds, hds⟩ : ∃ ds, Nat.toDigits 10 d.coefficient = ds := ⟨_, rfl⟩
  have hdigits : Digits ds := hds ▸ digits_toDigits _
  have hpos : 0 < ds.length := hds ▸ Nat.length_toDigits_pos
  have htake : ds.take 1 ≠ [] := by
    rw [ne_eq, List.take_eq_nil_iff]
    rintro (h | rfl)
    · cases h
    · cases hpos
  refine ⟨⟨ds.take 1, ds.drop 1, some (exponentOf (d.exponent + (ds.length - 1 : Nat))),
    fun c hc => hdigits c (List.mem_of_mem_take hc),
    fun c hc => hdigits c (List.mem_of_mem_drop hc), .inl htake⟩, ?_, ?_⟩
  · have hfraction : (if ds.length ≤ 1 then "" else "." ++ String.ofList (ds.drop 1)).toList =
        if ds.drop 1 = [] then [] else '.' :: ds.drop 1 := by
      simp only [List.drop_eq_nil_iff]
      split <;> simp
    have hsign : ∀ negative : Prop, [Decidable negative] →
        (if negative then "-" else "+").toList = [if negative then '-' else '+'] := by
      intro negative _
      split <;> rfl
    simp only [scientific, hds, String.toList_append, String.toList_ofList, hfraction, hsign]
    simp [Numeral.text, Numeral.fractionText, Numeral.exponentText, Grammar.Exponent.text, exponentOf]
  · simp only [exact, Option.map_some, Option.getD_some, value_exponentOf, List.take_append_drop,
      List.length_drop, add_sub_cancel_right, Decimal.value]
    rw [← hds, decimalValue_toDigits]

theorem binary_whole? {n : Nat} (h : whole? m e = some n) : binary m e = n := by
  unfold whole? at h
  rw [binary, zpow_eq_div two_ne_zero]
  simp only [Nat.pow_eq] at h
  split_ifs at h with he hmod
  · obtain rfl := Option.some.inj h
    have hzero : (-e).toNat = 0 := by omega
    simp [hzero]
  · obtain rfl := Option.some.inj h
    have hzero : e.toNat = 0 := by omega
    rw [hzero, pow_zero, mul_one_div, Nat.cast_div (Nat.dvd_of_mod_eq_zero hmod) (by positivity)]
    push_cast
    rfl

theorem magnitude_eq (m : Nat) (e : Int) {d : Decimal} (hd : shortest .up m e = d) :
    plain.magnitude m e =
      if -6 ≤ d.power && d.power < 21 then
        match whole? m e with
        | some n => toString n ++ ""
        | none => positional "" d
      else scientific "+" d := by
  subst hd
  rfl

theorem writes_magnitude (h : IsBinary m e) (hm : 0 < m) :
    ∃ q, Writes (plain.magnitude m e) q ∧ Rounds q m e := by
  obtain ⟨d, hd⟩ : ∃ d, shortest .up m e = d := ⟨_, rfl⟩
  have hrounds : Rounds d.value m e := hd ▸ rounds_shortest .up h hm
  rw [magnitude_eq m e hd]
  split_ifs
  · cases hwhole : whole? m e with
    | some n =>
      refine ⟨binary m e, ?_, rounds_binary h⟩
      have hvalue : binary m e = Text.decimalValue (Nat.toDigits 10 n) := by
        rw [binary_whole? hwhole, decimalValue_toDigits]
      rw [hvalue]
      exact writes_whole (by simp) (digits_toDigits n) Nat.toDigits_ne_nil
    | none => exact ⟨_, writes_positional d, hrounds⟩
  · exact ⟨_, writes_scientific d, hrounds⟩

end Runbook.Number

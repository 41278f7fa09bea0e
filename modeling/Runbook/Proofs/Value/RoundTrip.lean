import Mathlib
import Runbook.Expr.Eval
import Runbook.Proofs.Number.Literal
import Runbook.Proofs.Number.Text
import Runbook.Proofs.Value.Coherence

/-!
# A number survives being written and read

Its text is a numeral, with a minus sign or without, whose exact value is rounded to the number,
and reading rounds the exact value once.
-/

namespace Runbook

namespace Number

open Grammar (Numeral)

variable {m : Nat} {e : Int}

/-! ## Reading numerals -/

theorem not_isBlank_of_isDecimalChar {c : Char} (h : isDecimalChar c = true) :
    Text.isBlank c = false := by
  simp only [isDecimalChar, Bool.or_eq_true, decide_eq_true_eq] at h
  rcases h with hdigit | hmem
  · have hrange : 48 ≤ c.toNat ∧ c.toNat ≤ 57 := by
      simpa [Char.isDigit, UInt32.le_iff_toNat_le] using hdigit
    simp [Text.isBlank]
    omega
  · exact Grammar.forall_mem_of_all (p := fun c => Text.isBlank c = false) (by decide) c hmem

theorem trimChars_eq_self {cs : List Char} (h : ∀ c ∈ cs, Text.isBlank c = false) :
    Text.trimChars cs = cs := by
  have hdrop : ∀ {ds : List Char}, (∀ c ∈ ds, Text.isBlank c = false) →
      ds.dropWhile Text.isBlank = ds := by
    intro ds hds
    cases ds with
    | nil => rfl
    | cons c t => simp [hds c (by simp)]
  rw [Text.trimChars, Text.trimStart, hdrop h, Text.trimEnd, hdrop (by simpa using h),
    List.reverse_reverse]

theorem ofText_numeral {s : String} {sign : Option Char} (n : Numeral) (hsign : OptionalSign sign)
    (hs : s.toList = sign.toList ++ n.text) :
    ofText s = if sign = some '-' then -n.value else n.value := by
  have hunsigned : Unsigned n.text := unsigned_of_literal? (Grammar.literal?_text n)
  have hchars := mem_sign_append hsign hunsigned
  have htrim : Text.trimChars s.toList = sign.toList ++ n.text := by
    rw [hs]
    exact trimChars_eq_self fun c hc => not_isBlank_of_isDecimalChar (hchars c hc)
  have hdecimal : decimal? (sign.toList ++ n.text) =
      some (if sign = some '-' then -n.value else n.value) := by
    simp [decimal?, sign_append hsign fun _ => hunsigned.stops_isSign, Grammar.literal?_text,
      Numeral.value]
  rw [ofText_of_decimal htrim ?_ ?_ ?_, hdecimal]
  · rfl
  · obtain ⟨c, t, htext, -⟩ := n.text_cons
    simp [htext]
  · intro other _ heq
    exact absurd (hchars 'I' (heq ▸ by simp)) (by decide)
  · intro x hx rest heq
    have hdecimal := hchars x (heq ▸ by simp)
    rcases List.mem_pair.mp hx with rfl | rfl <;> exact absurd hdecimal (by decide)

/-! ## Writing and reading -/

def writtenSign (negative : Bool) : Option Char := if negative then some '-' else none

theorem optionalSign_writtenSign (negative : Bool) : OptionalSign (writtenSign negative) := by
  cases negative <;> simp [OptionalSign, writtenSign]

theorem ofText_write_finite {x : Float} {negative : Bool} (h : parts x = .finite negative m e)
    (hm : m ≠ 0) : ofText (plain.write x) = x := by
  obtain ⟨hbinary, hexponent⟩ := isBinary_of_parts h
  obtain ⟨q, ⟨n, htext, hexact⟩, hrounds⟩ := writes_magnitude hbinary (Nat.pos_of_ne_zero hm)
  have hwrite : (plain.write x).toList = (writtenSign negative).toList ++ n.text := by
    rw [← htext]
    cases negative <;> simp [Layout.write, h, hm, writtenSign]
  have hvalue : parts n.value = .finite false m e := by
    obtain ⟨M, E, hM, hparts⟩ := isNearest_value n
    rw [hexact] at hM
    obtain ⟨rfl, rfl⟩ := hM.unique hrounds
    rw [hparts, if_pos hexponent]
  rw [ofText_numeral n (optionalSign_writtenSign negative) hwrite]
  apply eq_of_parts_eq
  rw [h]
  cases negative
  · simpa [writtenSign] using hvalue
  · simp [writtenSign, parts_neg, hvalue, Parts.neg]

theorem ofText_zero : ofText "0" = 0 := by
  rfl

theorem ofText_write_infinite {x : Float} {negative : Bool} (h : parts x = .infinite negative) :
    ofText (plain.write x) = x := by
  have hwrite : (plain.write x).toList = (writtenSign negative).toList ++ "Infinity".toList := by
    cases negative <;> simp [Layout.write, h, writtenSign, plain]
  have htrim : Text.trimChars (plain.write x).toList =
      (writtenSign negative).toList ++ "Infinity".toList := by
    rw [hwrite]
    cases negative <;> rfl
  rw [ofText_of_infinity (optionalSign_writtenSign negative) htrim]
  apply eq_of_parts_eq
  rw [h]
  cases negative
  · exact parts_infinity
  · exact parts_neg_infinity

theorem ofText_write_nan {x : Float} (h : parts x = .nan) : ofText (plain.write x) = nan := by
  have hwrite : plain.write x = "NaN" := by simp [Layout.write, h, plain]
  rw [hwrite]
  rfl

theorem beq_zero_iff {x : Float} {negative : Bool} (h : parts x = .finite negative m e) :
    (x == 0) = true ↔ m = 0 := by
  have hzero : (0 : Float).toModel.unpack = .zero .positive := by rfl
  obtain ⟨s, -, hx⟩ := exists_unpacked h
  rw [beq_iff_unpacked, hx, hzero]
  rcases Nat.eq_zero_or_pos m with rfl | hm
  · rw [unpacked_zero]
    cases s <;> simp [Float.Model.UnpackedFloat.compare]
  · rw [unpacked_of_pos hm]
    cases s <;> simp [Float.Model.UnpackedFloat.compare, hm.ne']

theorem ofText_write {x : Float} (hx : x.isNaN = false) :
    ofText (plain.write x) = if x == 0 then 0 else x := by
  cases h : parts x with
  | nan =>
    rw [(isNaN_iff_parts x).mpr h] at hx
    cases hx
  | infinite negative =>
    have hne : (x == 0) = false := by
      cases negative
      · rw [eq_of_parts_eq (h.trans parts_infinity.symm)]
        decide
      · rw [eq_of_parts_eq (h.trans parts_neg_infinity.symm)]
        decide
    rw [ofText_write_infinite h, hne]
    rfl
  | finite negative m e =>
    by_cases hm : m = 0
    · subst hm
      have hwrite : plain.write x = "0" := by simp [Layout.write, h, plain]
      rw [hwrite, ofText_zero, if_pos ((beq_zero_iff h).mpr rfl)]
    · rw [ofText_write_finite h hm, if_neg (mt (beq_zero_iff h).mp hm)]

end Number

/-! ## Values -/

theorem Value.looseEq_display {x : Float} (hx : x.isNaN = false) :
    (num x).looseEq (str (display (num x))) = true := by
  change (x == Number.ofText (Number.plain.write x)) = true
  rw [Number.ofText_write hx]
  split
  · assumption
  · rw [Float.beq_self_iff]
    simpa using hx

theorem Expr.eval_eq_text {get : String → Value} {n : Expr} {v : Value} (h : n.eval get = .ok v) :
    (Expr.binary .eq n (.binary .add (.str "") n)).eval get =
      .ok (.bool (v.looseEq (.str v.display))) := by
  have hadd : Value.add (.str "") v = .str v.display := by
    simp [Value.add, Value.isStr, Value.display]
  simp only [eval, h, bind, Except.bind, BinaryOp.decided?, BinaryOp.apply, hadd]

/-- A number equals its text, and reading the text gives the number back; the sign of zero is lost.
-/
theorem Value.toNumber_display (x : Float) :
    (x.isNaN = false →
      toNumber (.str (display (.num x))) = (if x == 0 then 0 else x) ∧
      ∀ (get : String → Value) (n : Expr), n.eval get = .ok (.num x) →
        (Expr.binary .eq n (.binary .add (.str "") n)).eval get = .ok (.bool true)) ∧
    (x.isNaN = true → (toNumber (.str (display (.num x)))).isNaN = true) := by
  refine ⟨fun hx => ⟨Number.ofText_write hx, fun get n hn => ?_⟩, fun hx => ?_⟩
  · rw [Expr.eval_eq_text hn, looseEq_display hx]
  · have hnan := Number.ofText_write_nan ((Number.isNaN_iff_parts x).mp hx)
    exact (congrArg Float.isNaN hnan).trans Number.isNaN_nan

theorem Value.toNumber_display_sextillion :
    ((1e21 : Float).isNaN = false ∧
      toNumber (.str (display (.num 1e21))) = 1e21 ∧
      (Expr.binary .eq (.num 1e21) (.binary .add (.str "") (.num 1e21))).eval (fun _ => .undefined) =
        .ok (.bool true)) ∧
    (Number.nan.isNaN = true ∧ (toNumber (.str (display (.num Number.nan)))).isNaN = true) := by
  have hnumber : (1e21 : Float).isNaN = false := by decide
  have hzero : ((1e21 : Float) == 0) = false := by decide
  obtain ⟨hread, heq⟩ := (toNumber_display 1e21).1 hnumber
  rw [hzero] at hread
  exact ⟨⟨hnumber, hread, heq _ _ rfl⟩, Number.isNaN_nan, (toNumber_display _).2 Number.isNaN_nan⟩

end Runbook

import Mathlib
import Runbook.Value.Basic
import Runbook.Proofs.Expr.Literals
import Runbook.Proofs.Number.Decimals

/-!
# The texts that stand for numbers

What is read as a number is a literal of the grammar below, and a literal is read as a number, but
for two kinds of hexadecimal texts: a plus sign after the `0x` is taken although it belongs to no
literal, and digits that need more than 64 bits are refused.
-/

namespace Runbook.Number

open Grammar (Exponent Digits Stops)

/-! ## Literals -/

def OptionalSign (sign : Option Char) : Prop := ∀ c ∈ sign, c ∈ ['+', '-']

theorem OptionalSign.cases {sign : Option Char} (h : OptionalSign sign) :
    sign = none ∨ sign = some '+' ∨ sign = some '-' := by
  cases sign with
  | none => exact .inl rfl
  | some c => simpa using h c rfl

/-- Digits with a point perhaps behind or between them, or a point with digits after it. -/
inductive Significand : List Char → Prop where
  | whole {ds : List Char} (hne : ds ≠ []) (hds : Digits ds) : Significand ds
  | pointed {ds fs : List Char} (hne : ds ≠ []) (hds : Digits ds) (hfs : Digits fs) :
    Significand (ds ++ '.' :: fs)
  | fraction {fs : List Char} (hne : fs ≠ []) (hfs : Digits fs) : Significand ('.' :: fs)

def exponentText (exponent : Option Exponent) : List Char := (exponent.map Exponent.text).getD []

inductive Unsigned : List Char → Prop where
  | intro {significand : List Char} (h : Significand significand) (exponent : Option Exponent) :
    Unsigned (significand ++ exponentText exponent)

def HexDigits (ds : List Char) : Prop := ds ≠ [] ∧ ∀ d ∈ ds, Text.isHexDigit d = true

instance (ds : List Char) : Decidable (HexDigits ds) :=
  decidable_of_iff (ds ≠ [] ∧ ds.all Text.isHexDigit = true) (by simp [HexDigits])

inductive IsLiteral : List Char → Prop where
  | empty : IsLiteral []
  | infinity {sign : Option Char} (hsign : OptionalSign sign) :
    IsLiteral (sign.toList ++ "Infinity".toList)
  | hex {x : Char} {ds : List Char} (hx : x ∈ ['x', 'X']) (hds : HexDigits ds) :
    IsLiteral ('0' :: x :: ds)
  | decimal {sign : Option Char} {cs : List Char} (hsign : OptionalSign sign) (hcs : Unsigned cs) :
    IsLiteral (sign.toList ++ cs)

/-! ## Decimals -/

theorem sign_append {sign : Option Char} {rest : List Char} (hsign : OptionalSign sign)
    (hrest : sign = none → Stops Grammar.isSign rest) :
    Number.sign (sign.toList ++ rest) = (decide (sign = some '-'), rest) := by
  rcases hsign.cases with rfl | rfl | rfl
  · exact Grammar.sign_of_stops (hrest rfl)
  · rfl
  · rfl

theorem exists_exponent {cs : List Char} {k : Int} (h : exponentPart? cs = some k) :
    ∃ x, cs = exponentText x := by
  cases cs with
  | nil => exact ⟨none, rfl⟩
  | cons mark rest =>
    obtain ⟨sign, digits, hsign, hnone, rfl⟩ := Grammar.exists_sign rest
    simp only [exponentPart?, sign_append hsign hnone] at h
    split at h
    · rename_i hmark
      split at h
      · cases h
      · rename_i hdigits
        simp only [Bool.or_eq_true, Bool.not_eq_true', not_or, List.isEmpty_iff,
          Bool.not_eq_false, List.all_eq_true] at hdigits
        exact ⟨some ⟨mark, sign, digits, by simpa using hmark, hsign, hdigits.1, hdigits.2⟩, rfl⟩
    · cases h

def fractionPart (cs : List Char) : List Char × List Char :=
  match cs with
  | '.' :: after => (after.takeWhile Char.isDigit, after.dropWhile Char.isDigit)
  | _ => ([], cs)

theorem fractionPart_eq {cs fraction tail : List Char} (h : fractionPart cs = (fraction, tail)) :
    Digits fraction ∧ (fraction = [] ∧ cs = tail ∨ cs = '.' :: fraction ++ tail) := by
  unfold fractionPart at h
  split at h
  · obtain ⟨rfl, rfl⟩ := Prod.mk.inj h
    exact ⟨List.all_eq_true.mp List.all_takeWhile, .inr (by simp)⟩
  · obtain ⟨rfl, rfl⟩ := Prod.mk.inj h
    exact ⟨by simp [Digits], .inl ⟨rfl, rfl⟩⟩

theorem literal?_eq (cs : List Char) :
    literal? cs =
      if (cs.takeWhile Char.isDigit).isEmpty && (fractionPart (cs.dropWhile Char.isDigit)).1.isEmpty
      then none
      else (exponentPart? (fractionPart (cs.dropWhile Char.isDigit)).2).map
        (⟨cs.takeWhile Char.isDigit, (fractionPart (cs.dropWhile Char.isDigit)).1, ·⟩) := rfl

theorem unsigned_of_literal? {cs : List Char} {l : Literal} (h : literal? cs = some l) :
    Unsigned cs := by
  have hcs := List.takeWhile_append_dropWhile (p := Char.isDigit) (l := cs)
  have hwhole : Digits (cs.takeWhile Char.isDigit) := List.all_eq_true.mp List.all_takeWhile
  rw [literal?_eq] at h
  generalize cs.takeWhile Char.isDigit = whole at *
  cases hpart : fractionPart (cs.dropWhile Char.isDigit) with
  | mk fraction tail =>
    rw [hpart] at h
    split_ifs at h with hempty
    obtain ⟨k, hk, -⟩ := Option.map_eq_some_iff.mp h
    obtain ⟨x, rfl⟩ := exists_exponent hk
    obtain ⟨hfraction, hrest⟩ := fractionPart_eq hpart
    rcases hrest with ⟨rfl, hrest⟩ | hrest <;> rw [hrest] at hcs <;> subst hcs
    · have hne : whole ≠ [] := by simpa using hempty
      exact .intro (.whole hne hwhole) x
    · by_cases hne : whole = []
      · subst hne
        exact .intro (.fraction (by simpa using hempty) hfraction) x
      · simpa using Unsigned.intro (.pointed hne hwhole hfraction) x

theorem exponentText_cases (x : Option Exponent) :
    exponentText x = [] ∨ ∃ c t, exponentText x = c :: t ∧ c ∈ ['e', 'E'] := by
  cases x with
  | none => exact .inl rfl
  | some x => exact .inr ⟨x.mark, x.sign.toList ++ x.digits, rfl, x.mark_mem⟩

theorem stops_exponentText (x : Option Exponent) : Stops Char.isDigit (exponentText x) := by
  rcases exponentText_cases x with h | ⟨c, t, h, hc⟩ <;> rw [h]
  · exact .nil
  · rcases List.mem_pair.mp hc with rfl | rfl <;> exact .cons rfl t

theorem fractionPart_exponentText (x : Option Exponent) :
    fractionPart (exponentText x) = ([], exponentText x) := by
  rcases exponentText_cases x with h | ⟨c, t, h, hc⟩ <;> rw [h]
  · rfl
  · rcases List.mem_pair.mp hc with rfl | rfl <;> rfl

theorem exists_exponentPart? (x : Option Exponent) :
    ∃ k, exponentPart? (exponentText x) = some k := by
  cases x with
  | none => exact ⟨0, rfl⟩
  | some x => exact ⟨x.value, Grammar.exponentPart?_text x⟩

theorem exists_literal?_append {whole fraction rest : List Char} (hwhole : Digits whole)
    (hne : whole ≠ [] ∨ fraction ≠ []) (x : Option Exponent) (hstop : Stops Char.isDigit rest)
    (hpart : fractionPart rest = (fraction, exponentText x)) :
    ∃ l, literal? (whole ++ rest) = some l := by
  obtain ⟨hrun, hdrop⟩ := Grammar.takeWhile_append_of_stops hwhole hstop
  obtain ⟨k, hk⟩ := exists_exponentPart? x
  refine ⟨⟨whole, fraction, k⟩, ?_⟩
  rw [literal?_eq, hrun, hdrop, hpart, if_neg ?_, hk]
  · rfl
  · rcases hne with hne | hne <;> simp [hne]

theorem exists_literal? {cs : List Char} (h : Unsigned cs) : ∃ l, literal? cs = some l := by
  obtain ⟨hsignificand, x⟩ := h
  have hpoint : ∀ {fs}, Digits fs →
      fractionPart ('.' :: (fs ++ exponentText x)) = (fs, exponentText x) := by
    intro fs hfs
    obtain ⟨hrun, hdrop⟩ := Grammar.takeWhile_append_of_stops hfs (stops_exponentText x)
    simp [fractionPart, hrun, hdrop]
  cases hsignificand with
  | whole hne hds =>
    exact exists_literal?_append hds (.inl hne) x (stops_exponentText x) (fractionPart_exponentText x)
  | pointed hne hds hfs =>
    rw [List.append_assoc]
    exact exists_literal?_append hds (.inl hne) x (.cons rfl _) (hpoint hfs)
  | @fraction fs hne hfs =>
    have hnil : Digits [] := by simp [Digits]
    change ∃ l, literal? ([] ++ '.' :: (fs ++ exponentText x)) = some l
    exact exists_literal?_append hnil (.inr hne) x (.cons rfl _) (hpoint hfs)

def isDecimalChar (c : Char) : Bool := c.isDigit || c ∈ ['.', 'e', 'E', '+', '-']

theorem isDecimalChar_of_digit {c : Char} (h : c.isDigit = true) : isDecimalChar c = true := by
  simp [isDecimalChar, h]

theorem isDecimalChar_exponentText (x : Option Exponent) :
    ∀ c ∈ exponentText x, isDecimalChar c = true := by
  cases x with
  | none => simp [exponentText]
  | some x =>
    intro c hc
    have hmark : isDecimalChar x.mark = true := by
      rcases List.mem_pair.mp x.mark_mem with h | h <;> rw [h] <;> rfl
    simp only [exponentText, Option.map_some, Option.getD_some, Exponent.text, List.cons_append,
      List.mem_cons, List.mem_append, Option.mem_toList] at hc
    rcases hc with rfl | hc | hc
    · exact hmark
    · rcases List.mem_pair.mp (x.sign_mem c hc) with rfl | rfl <;> rfl
    · exact isDecimalChar_of_digit (x.digits_digits c hc)

theorem Unsigned.isDecimalChar {cs : List Char} (h : Unsigned cs) :
    ∀ c ∈ cs, isDecimalChar c = true := by
  obtain ⟨hsignificand, x⟩ := h
  intro c hc
  rcases List.mem_append.mp hc with hc | hc
  · cases hsignificand with
    | whole _ hds => exact isDecimalChar_of_digit (hds c hc)
    | pointed _ hds hfs =>
      rcases List.mem_append.mp hc with hc | hc
      · exact isDecimalChar_of_digit (hds c hc)
      · rcases List.mem_cons.mp hc with rfl | hc
        · rfl
        · exact isDecimalChar_of_digit (hfs c hc)
    | fraction _ hfs =>
      rcases List.mem_cons.mp hc with rfl | hc
      · rfl
      · exact isDecimalChar_of_digit (hfs c hc)
  · exact isDecimalChar_exponentText x c hc

theorem Unsigned.stops_isSign {cs : List Char} (h : Unsigned cs) : Stops Grammar.isSign cs := by
  have hdigit : ∀ {ds rest}, ds ≠ [] → Digits ds → Stops Grammar.isSign (ds ++ rest) := by
    intro ds rest hne hds
    obtain ⟨d, t, rfl⟩ := List.exists_cons_of_ne_nil hne
    exact .cons (Grammar.not_sign_of_digit (hds d (by simp))) _
  obtain ⟨hsignificand, x⟩ := h
  cases hsignificand with
  | whole hne hds => exact hdigit hne hds
  | pointed hne hds _ =>
    rw [List.append_assoc]
    exact hdigit hne hds
  | fraction => exact .cons rfl _

theorem decimal?_isSome_iff (cs : List Char) :
    (decimal? cs).isSome = true ↔
      ∃ sign rest, OptionalSign sign ∧ Unsigned rest ∧ cs = sign.toList ++ rest := by
  constructor
  · intro h
    obtain ⟨sign, rest, hsign, hnone, rfl⟩ := Grammar.exists_sign cs
    simp only [decimal?, sign_append hsign hnone, Option.isSome_map] at h
    obtain ⟨l, hl⟩ := Option.isSome_iff_exists.mp h
    exact ⟨sign, rest, hsign, unsigned_of_literal? hl, rfl⟩
  · rintro ⟨sign, rest, hsign, hrest, rfl⟩
    obtain ⟨l, hl⟩ := exists_literal? hrest
    simp [decimal?, sign_append hsign fun _ => hrest.stops_isSign, hl]

theorem isNaN_nan : nan.isNaN = true := (isNaN_iff_parts nan).mpr parts_nan

theorem not_isNaN_nan {p : Prop} : nan.isNaN = false → p :=
  fun h => absurd (isNaN_nan.symm.trans h) (by decide)

theorem isNaN_neg (x : Float) : (-x).isNaN = x.isNaN := by
  rw [Bool.eq_iff_iff, isNaN_iff_parts, isNaN_iff_parts, parts_neg]
  cases parts x <;> simp [Parts.neg]

theorem IsNearest.isNaN {q : ℚ} {x : Float} (h : IsNearest q x) : x.isNaN = false := by
  rw [Bool.eq_false_iff, ne_eq, isNaN_iff_parts]
  exact h.not_nan

theorem decimal?_not_nan {cs : List Char} {x : Float} (h : decimal? cs = some x) :
    x.isNaN = false := by
  obtain ⟨l, -, rfl⟩ := Option.map_eq_some_iff.mp h
  have hvalue : l.value.isNaN = false := (isNearest_nearest _ _).isNaN
  change Float.isNaN (if (sign cs).1 = true then -l.value else l.value) = false
  cases (sign cs).1 with
  | true => exact (isNaN_neg _).trans hvalue
  | false => exact hvalue

theorem decimal?_getD_isNaN (cs : List Char) :
    ((decimal? cs).getD nan).isNaN = false ↔ (decimal? cs).isSome = true := by
  cases h : decimal? cs with
  | none => exact ⟨not_isNaN_nan, nofun⟩
  | some x => exact ⟨fun _ => rfl, fun _ => decimal?_not_nan h⟩

/-! ## Hexadecimals -/

def afterPlus (cs : List Char) : List Char :=
  match cs with
  | '+' :: rest => rest
  | _ => cs

theorem eq_afterPlus (cs : List Char) : cs = afterPlus cs ∨ cs = '+' :: afterPlus cs := by
  unfold afterPlus
  split
  · exact .inr rfl
  · exact .inl rfl

theorem not_hexDigits_plus (ds : List Char) : ¬HexDigits ('+' :: ds) :=
  fun h => absurd (h.2 '+' (by simp)) (by decide)

theorem hex?_eq (cs : List Char) :
    hex? cs =
      if HexDigits (afterPlus cs) ∧ Text.hexValue (afterPlus cs) < 2 ^ 64 then
        some (nearest (Text.hexValue (afterPlus cs)) 0)
      else none := by
  have hdigits : HexDigits (afterPlus cs) ↔
      ¬((afterPlus cs).isEmpty || !(afterPlus cs).all Text.isHexDigit) = true := by
    simp [HexDigits]
  have hdef : hex? cs = if (afterPlus cs).isEmpty || !(afterPlus cs).all Text.isHexDigit then none
      else if Text.hexValue (afterPlus cs) < Nat.pow 2 64 then
        some (nearest (Text.hexValue (afterPlus cs)) 0)
      else none := rfl
  rw [hdef, ite_and]
  simp only [hdigits, ite_not, Nat.pow_eq]

/-! ## Texts -/

theorem ofText_of_hex {s : String} {x : Char} {cs : List Char} (hx : x ∈ ['x', 'X'])
    (hs : Text.trimChars s.toList = '0' :: x :: cs) : ofText s = (hex? cs).getD nan := by
  rcases List.mem_pair.mp hx with rfl | rfl <;> simp [ofText, hs]

theorem ofText_of_decimal {s : String} {cs : List Char} (hs : Text.trimChars s.toList = cs)
    (hne : cs ≠ []) (hword : ∀ sign, OptionalSign sign → cs ≠ sign.toList ++ "Infinity".toList)
    (hmark : ∀ x ∈ ['x', 'X'], ∀ rest, cs ≠ '0' :: x :: rest) :
    ofText s = (decimal? cs).getD nan := by
  have hplain : cs ≠ "Infinity".toList := hword none (by simp [OptionalSign])
  have hplus : cs ≠ "+Infinity".toList := hword (some '+') (by simp [OptionalSign])
  have hminus : cs ≠ "-Infinity".toList := hword (some '-') (by simp [OptionalSign])
  unfold ofText
  rw [hs]
  simp only [List.isEmpty_iff, hne, hplain, hplus, hminus, decide_false, Bool.or_false, if_false,
    Bool.false_eq_true]
  split
  · exact absurd rfl (hmark 'x' (by simp) _)
  · exact absurd rfl (hmark 'X' (by simp) _)
  · rfl

/-- The text is read the way a literal is: as a number if it is one, and hexadecimal digits as the
number nearest to what they denote. -/
structure ReadAsLiteral (cs : List Char) (x : Float) : Prop where
  number_iff : x.isNaN = false ↔ IsLiteral cs
  hex : ∀ mark ∈ ['x', 'X'], ∀ ds, HexDigits ds → cs = '0' :: mark :: ds →
    IsNearest (Text.hexValue ds) x

inductive Misread : List Char → Prop where
  | plus {x : Char} {ds : List Char} (hx : x ∈ ['x', 'X']) (hds : HexDigits ds)
    (hlt : Text.hexValue ds < 2 ^ 64) : Misread ('0' :: x :: '+' :: ds)
  | wide {x : Char} {ds : List Char} (hx : x ∈ ['x', 'X']) (hds : HexDigits ds)
    (hge : 2 ^ 64 ≤ Text.hexValue ds) : Misread ('0' :: x :: ds)

theorem mem_sign_append {sign : Option Char} {cs : List Char} (hsign : OptionalSign sign)
    (hcs : Unsigned cs) : ∀ c ∈ sign.toList ++ cs, isDecimalChar c = true := by
  intro c hc
  rcases List.mem_append.mp hc with hc | hc
  · rcases List.mem_pair.mp (hsign c (Option.mem_toList.mp hc)) with rfl | rfl <;> rfl
  · exact hcs.isDecimalChar c hc

theorem isLiteral_hex_iff {x : Char} {cs : List Char} (hx : x ∈ ['x', 'X']) :
    IsLiteral ('0' :: x :: cs) ↔ HexDigits cs := by
  have hmark : isDecimalChar x = false := by
    rcases List.mem_pair.mp hx with rfl | rfl <;> rfl
  refine ⟨fun h => ?_, .hex hx⟩
  generalize htext : '0' :: x :: cs = text at h
  cases h with
  | empty => cases htext
  | infinity hsign => rcases hsign.cases with rfl | rfl | rfl <;> simp at htext
  | hex _ hds =>
    cases htext
    exact hds
  | decimal hsign hrest =>
    have hdecimal := mem_sign_append hsign hrest x (htext ▸ by simp)
    rw [hmark] at hdecimal
    cases hdecimal

theorem misread_hex_iff {x : Char} {cs : List Char} (hx : x ∈ ['x', 'X']) :
    Misread ('0' :: x :: cs) ↔
      (∃ ds, cs = '+' :: ds ∧ HexDigits ds ∧ Text.hexValue ds < 2 ^ 64) ∨
        (HexDigits cs ∧ 2 ^ 64 ≤ Text.hexValue cs) := by
  constructor
  · intro h
    cases h with
    | plus _ hds hlt => exact .inl ⟨_, rfl, hds, hlt⟩
    | wide _ hds hge => exact .inr ⟨hds, hge⟩
  · rintro (⟨ds, rfl, hds, hlt⟩ | ⟨hds, hge⟩)
    · exact .plus hx hds hlt
    · exact .wide hx hds hge

theorem readAsLiteral_hex_iff {x : Char} {cs : List Char} (hx : x ∈ ['x', 'X']) (y : Float) :
    ReadAsLiteral ('0' :: x :: cs) y ↔
      (y.isNaN = false ↔ HexDigits cs) ∧ (HexDigits cs → IsNearest (Text.hexValue cs) y) := by
  constructor
  · rintro ⟨hnumber, hhex⟩
    rw [isLiteral_hex_iff hx] at hnumber
    exact ⟨hnumber, fun hds => hhex x hx cs hds rfl⟩
  · rintro ⟨hnumber, hhex⟩
    refine ⟨hnumber.trans (isLiteral_hex_iff hx).symm, fun mark _ ds hds htext => ?_⟩
    obtain ⟨rfl, rfl⟩ : x = mark ∧ cs = ds := by simpa using htext
    exact hhex hds

theorem isNearest_nearest_zero (n : Nat) : IsNearest n (nearest n 0) := by
  simpa using isNearest_nearest n 0

theorem readAsLiteral_hex {s : String} {x : Char} {cs : List Char} (hx : x ∈ ['x', 'X'])
    (hs : Text.trimChars s.toList = '0' :: x :: cs) :
    ReadAsLiteral ('0' :: x :: cs) (ofText s) ↔ ¬Misread ('0' :: x :: cs) := by
  rw [ofText_of_hex hx hs, hex?_eq, readAsLiteral_hex_iff hx, misread_hex_iff hx]
  rcases eq_afterPlus cs with hcs | hcs
  · have hplus : ¬∃ ds, cs = '+' :: ds ∧ HexDigits ds ∧ Text.hexValue ds < 2 ^ 64 := by
      rintro ⟨ds, rfl, -⟩
      simp [afterPlus] at hcs
    rw [← hcs]
    split_ifs with hread
    · have hnear := isNearest_nearest_zero (Text.hexValue cs)
      refine iff_of_true ⟨iff_of_true hnear.isNaN hread.1, fun _ => hnear⟩ ?_
      rintro (h | ⟨-, hge⟩)
      · exact hplus h
      · omega
    · by_cases hds : HexDigits cs
      · have hge : 2 ^ 64 ≤ Text.hexValue cs := not_lt.mp fun hlt => hread ⟨hds, hlt⟩
        exact iff_of_false (fun h => not_isNaN_nan (h.1.mpr hds)) fun h => h (.inr ⟨hds, hge⟩)
      · refine iff_of_true ⟨⟨not_isNaN_nan, fun h => absurd h hds⟩, fun h => absurd h hds⟩ ?_
        rintro (h | ⟨h, -⟩)
        · exact hplus h
        · exact hds h
  · have hds : ¬HexDigits cs := fun h => not_hexDigits_plus _ (hcs ▸ h)
    split_ifs with hread
    · have hnear := isNearest_nearest_zero (Text.hexValue (afterPlus cs))
      exact iff_of_false (fun h => hds (h.1.mp hnear.isNaN))
        fun h => h (.inl ⟨afterPlus cs, hcs, hread⟩)
    · refine iff_of_true ⟨⟨not_isNaN_nan, fun h => absurd h hds⟩, fun h => absurd h hds⟩ ?_
      rintro (⟨ds, rfl, h⟩ | ⟨h, -⟩)
      · exact hread h
      · exact hds h

theorem readAsLiteral_decimal {s : String} {cs : List Char} (hs : Text.trimChars s.toList = cs)
    (hne : cs ≠ []) (hword : ∀ sign, OptionalSign sign → cs ≠ sign.toList ++ "Infinity".toList)
    (hmark : ∀ x ∈ ['x', 'X'], ∀ rest, cs ≠ '0' :: x :: rest) :
    ReadAsLiteral cs (ofText s) := by
  rw [ofText_of_decimal hs hne hword hmark]
  constructor
  · rw [decimal?_getD_isNaN, decimal?_isSome_iff]
    constructor
    · rintro ⟨sign, rest, hsign, hrest, rfl⟩
      exact .decimal hsign hrest
    · intro h
      cases h with
      | empty => exact absurd rfl hne
      | infinity hsign => exact absurd rfl (hword _ hsign)
      | hex hx _ => exact absurd rfl (hmark _ hx _)
      | decimal hsign hcs => exact ⟨_, _, hsign, hcs, rfl⟩
  · intro mark hx ds _ heq
    exact absurd heq (hmark mark hx ds)

theorem ofText_of_infinity {s : String} {sign : Option Char} (hsign : OptionalSign sign)
    (hs : Text.trimChars s.toList = sign.toList ++ "Infinity".toList) :
    ofText s = if sign = some '-' then -infinity else infinity := by
  rcases hsign.cases with rfl | rfl | rfl <;> simp [ofText, hs]

/-- Texts are read as the literals they are, and as no number if they are none, but for hexadecimals
with a plus sign or with too many digits. -/
theorem readAsLiteral_iff_not_misread (s : String) :
    ReadAsLiteral (Text.trimChars s.toList) (Value.toNumber (.str s)) ↔
      ¬Misread (Text.trimChars s.toList) := by
  change ReadAsLiteral _ (ofText s) ↔ _
  generalize hs : Text.trimChars s.toList = cs
  by_cases hmarked : ∃ x ∈ ['x', 'X'], ∃ rest, cs = '0' :: x :: rest
  · obtain ⟨x, hx, rest, rfl⟩ := hmarked
    exact readAsLiteral_hex hx hs
  · have hmark : ∀ x ∈ ['x', 'X'], ∀ rest, cs ≠ '0' :: x :: rest :=
      fun x hx rest h => hmarked ⟨x, hx, rest, h⟩
    have hnot : ¬Misread cs := by
      rintro (⟨hx, -, -⟩ | ⟨hx, -, -⟩)
      · exact hmark _ hx _ rfl
      · exact hmark _ hx _ rfl
    have hread : ∀ {x : Float}, IsLiteral cs → x.isNaN = false → ReadAsLiteral cs x :=
      fun hliteral hx => ⟨iff_of_true hx hliteral,
        fun mark hmem ds _ h => absurd h (hmark mark hmem ds)⟩
    refine iff_of_true ?_ hnot
    by_cases hne : cs = []
    · subst hne
      refine hread .empty ?_
      simp only [ofText, hs]
      decide
    · by_cases hword : ∃ sign, OptionalSign sign ∧ cs = sign.toList ++ "Infinity".toList
      · obtain ⟨sign, hsign, rfl⟩ := hword
        rw [ofText_of_infinity hsign hs]
        refine hread (.infinity hsign) ?_
        split <;> decide
      · exact readAsLiteral_decimal hs hne (fun sign hsign h => hword ⟨sign, hsign, h⟩) hmark

/-- A hexadecimal with a plus sign is no literal and is read as a number, and one of 65 bits is a
literal and is read as none. -/
theorem misread_plus_and_wide :
    ((Value.toNumber (.str "0x+1")).isNaN = false ∧ ¬IsLiteral (Text.trimChars "0x+1".toList)) ∧
      ((Value.toNumber (.str "0x10000000000000000")).isNaN = true ∧
        IsLiteral (Text.trimChars "0x10000000000000000".toList)) := by
  have hplus : Text.trimChars "0x+1".toList = '0' :: 'x' :: ['+', '1'] := rfl
  have hwide : Text.trimChars "0x10000000000000000".toList =
      '0' :: 'x' :: '1' :: List.replicate 16 '0' := rfl
  have hx : 'x' ∈ ['x', 'X'] := by simp
  refine ⟨⟨?_, ?_⟩, ?_, ?_⟩
  · change (ofText "0x+1").isNaN = false
    rw [ofText_of_hex hx hplus, hex?_eq, if_pos (by decide)]
    exact (isNearest_nearest_zero 1).isNaN
  · rw [hplus, isLiteral_hex_iff hx]
    exact not_hexDigits_plus _
  · change (ofText "0x10000000000000000").isNaN = true
    rw [ofText_of_hex hx hwide, hex?_eq, if_neg (by decide)]
    exact isNaN_nan
  · rw [hwide]
    exact .hex hx (by decide)

end Runbook.Number

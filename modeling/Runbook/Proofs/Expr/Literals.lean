import Runbook.Proofs.Expr.Tokens

/-!
# Literals and variables

What the reader takes for one is one of the grammar and has its value, and one of the grammar is
taken whole if what follows it is apart.
-/

namespace Runbook.Grammar

/-! ## Text literals -/

theorem stringBody?_eq_some {quote : Char} {cs body rest : List Char}
    (h : Expr.stringBody? quote cs = some (body, rest)) :
    ∃ pieces : List Piece, (∀ piece ∈ pieces, piece.Fits quote) ∧ body = pieces.map Piece.char ∧
      cs = pieces.flatMap Piece.text ++ quote :: rest := by
  fun_induction Expr.stringBody? quote cs generalizing body with
  | case1 => simp at h
  | case2 => simp at h
  | case3 c cs ih =>
    obtain ⟨⟨inner, after⟩, hinner, heq⟩ := Option.map_eq_some_iff.mp h
    obtain ⟨rfl, rfl⟩ := Prod.mk.inj heq
    obtain ⟨pieces, hfit, rfl, rfl⟩ := ih hinner
    refine ⟨.escape c :: pieces, ?_, rfl, by simp [Piece.text]⟩
    simpa [Piece.Fits] using hfit
  | case4 cs =>
    obtain ⟨rfl, rfl⟩ := Prod.mk.inj (Option.some.inj h)
    exact ⟨[], by simp, rfl, rfl⟩
  | case5 c cs hlone hescape hquote ih =>
    obtain ⟨⟨inner, after⟩, hinner, heq⟩ := Option.map_eq_some_iff.mp h
    obtain ⟨rfl, rfl⟩ := Prod.mk.inj heq
    obtain ⟨pieces, hfit, rfl, rfl⟩ := ih hinner
    -- a backslash would have been taken with the character after it
    have hslash : c ≠ '\\' := by
      rintro rfl
      cases hcs : pieces.flatMap Piece.text ++ quote :: after with
      | nil => exact hlone rfl hcs
      | cons d t => exact hescape d t rfl hcs
    refine ⟨.plain c :: pieces, ?_, rfl, by simp [Piece.text]⟩
    simpa [Piece.Fits, hquote, hslash] using hfit

theorem stringBody?_append {quote : Char} {pieces : List Piece} {rest : List Char}
    (hquote : quote ≠ '\\') (hfit : ∀ piece ∈ pieces, piece.Fits quote) :
    Expr.stringBody? quote (pieces.flatMap Piece.text ++ quote :: rest)
      = some (pieces.map Piece.char, rest) := by
  induction pieces with
  | nil => simp [Expr.stringBody?, hquote]
  | cons piece pieces ih =>
    have ih := ih fun p hp => hfit p (by simp [hp])
    have hpiece := hfit piece (by simp)
    cases piece with
    | escape c =>
      simp only [List.flatMap_cons, Piece.text, List.cons_append, List.nil_append,
        Expr.stringBody?, ih]
      rfl
    | plain c =>
      obtain ⟨hc, hslash⟩ := hpiece
      simp [List.flatMap_cons, Piece.text, Expr.stringBody?, ih, hc, hslash, Piece.char]

/-! ## Numbers -/

theorem fractionLexeme_eq {cs lexeme rest : List Char}
    (h : Expr.fractionLexeme cs = (lexeme, rest)) :
    ∃ ds, Digits ds ∧ lexeme = (if ds = [] then [] else '.' :: ds) ∧ cs = lexeme ++ rest := by
  unfold Expr.fractionLexeme at h
  split at h
  · rename_i after
    split at h
    · obtain ⟨rfl, rfl⟩ := Prod.mk.inj h
      exact ⟨[], by simp [Digits], by simp, rfl⟩
    · rename_i hdigits
      obtain ⟨rfl, rfl⟩ := Prod.mk.inj h
      refine ⟨after.takeWhile Char.isDigit, List.all_eq_true.mp List.all_takeWhile, ?_, by simp⟩
      rw [if_neg (by simpa using hdigits)]
  · obtain ⟨rfl, rfl⟩ := Prod.mk.inj h
    exact ⟨[], by simp [Digits], by simp, rfl⟩

def isSign (c : Char) : Bool := c = '+' || c = '-'

theorem exists_sign (cs : List Char) :
    ∃ (sign : Option Char) (rest : List Char), (∀ c ∈ sign, c ∈ ['+', '-']) ∧
      (sign = none → Stops isSign rest) ∧ cs = sign.toList ++ rest := by
  cases cs with
  | nil => exact ⟨none, [], by simp, fun _ => .nil, rfl⟩
  | cons c t =>
    cases hc : isSign c with
    | true => exact ⟨some c, t, by simpa [isSign] using hc, by simp, rfl⟩
    | false => exact ⟨none, c :: t, by simp, fun _ => .cons hc t, rfl⟩

theorem exponentLexeme_mark {e : Char} {sign : Option Char} {digits : List Char}
    (he : e ∈ ['e', 'E']) (hsign : ∀ c ∈ sign, c ∈ ['+', '-'])
    (hnone : sign = none → Stops isSign digits) :
    Expr.exponentLexeme (e :: (sign.toList ++ digits)) =
      if digits.takeWhile Char.isDigit = [] then ([], e :: (sign.toList ++ digits))
      else (e :: sign.toList ++ digits.takeWhile Char.isDigit, digits.dropWhile Char.isDigit) := by
  have hmark : (e = 'e' || e = 'E') = true := by simpa using he
  cases sign with
  | some s =>
    have hs : (s = '+' || s = '-') = true := by simpa using hsign s rfl
    simp [Expr.exponentLexeme, hmark, hs]
  | none =>
    cases digits with
    | nil => simp [Expr.exponentLexeme]
    | cons d ds =>
      have hd : (d = '+' || d = '-') = false := (hnone rfl).head
      simp [Expr.exponentLexeme, hmark, hd]

theorem exponentLexeme_of_not_mark {cs : List Char} (h : Stops (fun c => c = 'e' || c = 'E') cs) :
    Expr.exponentLexeme cs = ([], cs) := by
  cases cs with
  | nil => rfl
  | cons c t => simp only [Expr.exponentLexeme, h.head, Bool.false_eq_true, if_false]

theorem exponentLexeme_eq {cs lexeme rest : List Char}
    (h : Expr.exponentLexeme cs = (lexeme, rest)) :
    ∃ x : Option Exponent, lexeme = (x.map Exponent.text).getD [] ∧ cs = lexeme ++ rest := by
  by_cases hmark : ∃ e ∈ ['e', 'E'], ∃ after, cs = e :: after
  · obtain ⟨e, he, after, rfl⟩ := hmark
    obtain ⟨sign, digits, hsign, hnone, rfl⟩ := exists_sign after
    rw [exponentLexeme_mark he hsign hnone] at h
    split at h
    · obtain ⟨rfl, rfl⟩ := Prod.mk.inj h
      exact ⟨none, rfl, rfl⟩
    · rename_i hdigits
      obtain ⟨rfl, rfl⟩ := Prod.mk.inj h
      refine ⟨some ⟨e, sign, _, he, hsign, hdigits, List.all_eq_true.mp List.all_takeWhile⟩, rfl, ?_⟩
      simp
  · have hstop : Stops (fun c => c = 'e' || c = 'E') cs := by
      intro c t hcs
      have hc : ¬(c = 'e' ∨ c = 'E') := fun hc => hmark ⟨c, by simpa using hc, t, hcs⟩
      simpa using hc
    obtain ⟨rfl, rfl⟩ := Prod.mk.inj ((exponentLexeme_of_not_mark hstop).symm.trans h)
    exact ⟨none, rfl, rfl⟩

theorem numberLexeme?_eq_some {cs lexeme rest : List Char}
    (h : Expr.numberLexeme? cs = some (lexeme, rest)) :
    ∃ n : Numeral, lexeme = n.text ∧ cs = n.text ++ rest := by
  cases hfraction : Expr.fractionLexeme (cs.dropWhile Char.isDigit) with
  | mk fraction tail =>
    cases hexponent : Expr.exponentLexeme tail with
    | mk exponent after =>
      simp only [Expr.numberLexeme?, hfraction, hexponent] at h
      split at h
      · simp at h
      · rename_i hne
        obtain ⟨ds, hds, rfl, hdrop⟩ := fractionLexeme_eq hfraction
        obtain ⟨x, rfl, rfl⟩ := exponentLexeme_eq hexponent
        obtain ⟨rfl, rfl⟩ := Prod.mk.inj (Option.some.inj h)
        refine ⟨⟨cs.takeWhile Char.isDigit, ds, x, List.all_eq_true.mp List.all_takeWhile, hds, ?_⟩,
          rfl, ?_⟩
        · by_cases hnil : ds = [] <;> simp_all
        · have hcs := List.takeWhile_append_dropWhile (p := Char.isDigit) (l := cs)
          rw [hdrop] at hcs
          simpa [Numeral.text, Numeral.fractionText, Numeral.exponentText] using hcs.symm

theorem not_sign_of_digit {c : Char} (h : c.isDigit = true) : isSign c = false := by
  cases hc : isSign c with
  | false => rfl
  | true =>
    rcases (by simpa [isSign] using hc : c = '+' ∨ c = '-') with rfl | rfl <;> simp at h

theorem Exponent.stops_isSign (x : Exponent) (rest : List Char) :
    Stops isSign (x.digits ++ rest) := by
  obtain ⟨d, ds, hds⟩ := List.exists_cons_of_ne_nil x.digits_ne_nil
  rw [hds]
  exact .cons (not_sign_of_digit (x.digits_digits d (by simp [hds]))) _

theorem exponentLexeme_text (x : Exponent) {rest : List Char} (hrest : Stops Char.isDigit rest) :
    Expr.exponentLexeme (x.text ++ rest) = (x.text, rest) := by
  obtain ⟨hrun, hstop⟩ := takeWhile_append_of_stops x.digits_digits hrest
  have hread := exponentLexeme_mark x.mark_mem x.sign_mem fun _ => x.stops_isSign rest
  rw [hrun, hstop, if_neg x.digits_ne_nil] at hread
  simpa [Exponent.text] using hread

theorem fractionLexeme_of_no_digit {cs : List Char}
    (h : ∀ t, cs = '.' :: t → Stops Char.isDigit t) : Expr.fractionLexeme cs = ([], cs) := by
  unfold Expr.fractionLexeme
  split
  · rename_i after
    have hstop : (([] : List Char) ++ after).takeWhile Char.isDigit = [] :=
      (takeWhile_append_of_stops (by simp) (h after rfl)).1
    simp only [List.nil_append] at hstop
    simp [hstop]
  · rfl

namespace Numeral

variable (n : Numeral) {rest : List Char}

theorem exponentText_cases :
    n.exponentText = [] ∨ ∃ c t, n.exponentText = c :: t ∧ (c = 'e' ∨ c = 'E') := by
  cases hx : n.exponent with
  | none => exact .inl (by simp [exponentText, hx])
  | some x =>
    refine .inr ⟨x.mark, x.sign.toList ++ x.digits, by simp [exponentText, hx, Exponent.text], ?_⟩
    simpa using x.mark_mem

theorem stops_isDigit_exponent (hrest : Apart rest) :
    Stops Char.isDigit (n.exponentText ++ rest) := by
  rcases n.exponentText_cases with h | ⟨c, t, h, rfl | rfl⟩ <;> rw [h]
  · exact hrest.not_digit
  · exact .cons rfl _
  · exact .cons rfl _

theorem stops_isDigit_fraction (hrest : Apart rest) :
    Stops Char.isDigit (n.fractionText ++ (n.exponentText ++ rest)) := by
  by_cases hf : n.fraction = []
  · simpa [fractionText, hf] using n.stops_isDigit_exponent hrest
  · simp only [fractionText, hf, if_false, List.cons_append]
    exact .cons rfl _

theorem exponentLexeme_exponentText (hrest : Apart rest) :
    Expr.exponentLexeme (n.exponentText ++ rest) = (n.exponentText, rest) := by
  cases hx : n.exponent with
  | none =>
    have hstop : Stops (fun c => c = 'e' || c = 'E') rest := by
      intro c t h
      have hc := (hrest c t h).1
      simp only [isWordPart, Bool.or_eq_false_iff] at hc
      simp [hc.1.2, hc.2]
    simpa [exponentText, hx] using exponentLexeme_of_not_mark hstop
  | some x => simpa [exponentText, hx] using exponentLexeme_text x hrest.not_digit

theorem no_fraction_exponentText (hrest : Apart rest) :
    ∀ t, n.exponentText ++ rest = '.' :: t → Stops Char.isDigit t := by
  intro t h
  rcases n.exponentText_cases with hx | ⟨c, u, hx, rfl | rfl⟩ <;> rw [hx] at h
  · exact (hrest '.' t h).2 rfl
  · simp at h
  · simp at h

theorem fractionLexeme_fractionText (hrest : Apart rest) :
    Expr.fractionLexeme (n.fractionText ++ (n.exponentText ++ rest))
      = (n.fractionText, n.exponentText ++ rest) := by
  by_cases hf : n.fraction = []
  · simpa [fractionText, hf] using fractionLexeme_of_no_digit (n.no_fraction_exponentText hrest)
  · obtain ⟨hrun, hstop⟩ :=
      takeWhile_append_of_stops n.fraction_digits (n.stops_isDigit_exponent hrest)
    simp [fractionText, hf, Expr.fractionLexeme, hrun, hstop]

theorem numberLexeme?_text (hrest : Apart rest) :
    Expr.numberLexeme? (n.text ++ rest) = some (n.text, rest) := by
  obtain ⟨hrun, hstop⟩ := takeWhile_append_of_stops n.whole_digits (n.stops_isDigit_fraction hrest)
  have hne : (n.whole.isEmpty && n.fractionText.isEmpty) = false := by
    rcases n.ne_nil with h | h <;> simp [fractionText, h]
  simp only [text, List.append_assoc, Expr.numberLexeme?, hrun, hstop,
    n.fractionLexeme_fractionText hrest, n.exponentLexeme_exponentText hrest, hne]
  simp

end Numeral

/-! ## What numbers are worth -/

theorem sign_of_stops {cs : List Char} (h : Stops isSign cs) : Number.sign cs = (false, cs) := by
  unfold Number.sign
  split
  · exact absurd h.head (by decide)
  · exact absurd h.head (by decide)
  · rfl

theorem exponentPart?_text (x : Exponent) : Number.exponentPart? x.text = some x.value := by
  have hmark : (x.mark = 'e' || x.mark = 'E') = true := by simpa using x.mark_mem
  have hdigits : (x.digits.isEmpty || !x.digits.all Char.isDigit) = false := by
    have hall : x.digits.all Char.isDigit = true := List.all_eq_true.mpr x.digits_digits
    simp [x.digits_ne_nil, hall]
  have hsign : Number.sign (x.sign.toList ++ x.digits) = (decide (x.sign = some '-'), x.digits) := by
    cases hx : x.sign with
    | none => simpa using sign_of_stops (by simpa using x.stops_isSign [])
    | some s =>
      have hs : s = '+' ∨ s = '-' := by simpa using x.sign_mem s (by simp [hx])
      rcases hs with rfl | rfl <;> simp [Number.sign]
  simp only [Exponent.text, List.cons_append, Number.exponentPart?, hmark, hsign, hdigits]
  simp [Exponent.value]

theorem exponentPart?_exponentText (n : Numeral) :
    Number.exponentPart? n.exponentText = some ((n.exponent.map Exponent.value).getD 0) := by
  cases hx : n.exponent with
  | none => simp [Numeral.exponentText, hx, Number.exponentPart?]
  | some x => simpa [Numeral.exponentText, hx] using exponentPart?_text x

theorem literal?_text (n : Numeral) :
    Number.literal? n.text
      = some ⟨n.whole, n.fraction, (n.exponent.map Exponent.value).getD 0⟩ := by
  obtain ⟨hrun, hstop⟩ :=
    takeWhile_append_of_stops n.whole_digits (n.stops_isDigit_fraction Apart.nil)
  simp only [List.append_nil] at hrun hstop
  simp only [Number.literal?, Numeral.text, List.append_assoc, hrun, hstop]
  by_cases hf : n.fraction = []
  · have hw : n.whole ≠ [] := by simpa [hf] using n.ne_nil
    simp only [Numeral.fractionText, hf, if_true, List.nil_append]
    split
    · rename_i after hpoint
      rcases n.exponentText_cases with hx | ⟨c, u, hx, rfl | rfl⟩ <;> simp [hx] at hpoint
    · simp [hw, exponentPart?_exponentText]
  · obtain ⟨hdigits, hexponent⟩ :=
      takeWhile_append_of_stops n.fraction_digits (n.stops_isDigit_exponent Apart.nil)
    simp only [List.append_nil] at hdigits hexponent
    simp [Numeral.fractionText, hf, hdigits, hexponent, exponentPart?_exponentText]

theorem Numeral.text_cons (n : Numeral) :
    ∃ c t, n.text = c :: t ∧ (c.isDigit = true ∨ c = '.') := by
  cases hw : n.whole with
  | cons c t =>
    refine ⟨c, t ++ n.fractionText ++ n.exponentText, by simp [Numeral.text, hw], .inl ?_⟩
    exact n.whole_digits c (by simp [hw])
  | nil =>
    have hf : n.fraction ≠ [] := by simpa [hw] using n.ne_nil
    exact ⟨'.', n.fraction ++ n.exponentText,
      by simp [Numeral.text, Numeral.fractionText, hw, hf], .inr rfl⟩

theorem decimal?_text (n : Numeral) : Number.decimal? n.text = some n.value := by
  have hsign : Stops isSign n.text := by
    obtain ⟨c, t, htext, hc⟩ := n.text_cons
    rw [htext]
    rcases hc with hdigit | rfl
    · exact .cons (not_sign_of_digit hdigit) t
    · exact .cons rfl t
  simp [Number.decimal?, sign_of_stops hsign, literal?_text, Numeral.value]

/-! ## Operands without parts -/

def startsPrimary (c : Char) : Bool :=
  c ∈ ['.', '"', '\'', '('] || c.isDigit || Text.isIdentifierStart c

theorem startsPrimary_eq_false {c : Char}
    (h : c ∈ [' ', '\t', '\r', '\n', '=', ')', '!', '-', '+']) : startsPrimary c = false :=
  forall_mem_of_all (p := fun c => startsPrimary c = false) (by decide) c h

/-- What a word stands for: two of them are no names. -/
def wordTree (name : List Char) : Expr :=
  if name = "true".toList then .bool true
  else if name = "false".toList then .bool false
  else .var (String.ofList name)

theorem pair_wordTree (name rest : List Char) :
    (if name = "true".toList then (Expr.bool true, rest)
      else if name = "false".toList then (Expr.bool false, rest)
      else (Expr.var (String.ofList name), rest)) = (wordTree name, rest) := by
  unfold wordTree
  split
  · rfl
  · split <;> rfl

theorem derives_word {name : List Char} (h : Text.isIdentifier name = true) :
    Derives (.primary (wordTree name)) name := by
  unfold wordTree
  split
  · rename_i htrue
    exact htrue ▸ .true
  · rename_i htrue
    split
    · rename_i hfalse
      exact hfalse ▸ .false
    · rename_i hfalse
      exact .var h htrue hfalse

theorem derives_of_atom? {cs rest : List Char} {e : Expr} (h : Expr.atom? cs = some (e, rest)) :
    ∃ s, cs = s ++ rest ∧ Derives (.primary e) s := by
  unfold Expr.atom? at h
  split at h
  · rename_i lexeme after hlexeme
    obtain ⟨n, rfl, rfl⟩ := numberLexeme?_eq_some hlexeme
    obtain ⟨rfl, rfl⟩ : Expr.num n.value = e ∧ after = rest := by simpa [decimal?_text] using h
    exact ⟨n.text, rfl, .number n⟩
  · split at h
    · simp at h
    · split at h
      · rename_i c body hlexeme hquote
        obtain ⟨⟨content, after⟩, hbody, heq⟩ := Option.map_eq_some_iff.mp h
        obtain ⟨rfl, rfl⟩ := Prod.mk.inj heq
        obtain ⟨pieces, hfit, rfl, rfl⟩ := stringBody?_eq_some hbody
        exact ⟨c :: pieces.flatMap Piece.text ++ [c], by simp, .text (by simpa using hquote) hfit⟩
      · obtain ⟨⟨name, after⟩, hname, heq⟩ := Option.map_eq_some_iff.mp h
        obtain ⟨hident, hcs⟩ := identifier?_eq_some hname
        simp only [pair_wordTree] at heq
        obtain ⟨rfl, rfl⟩ := Prod.mk.inj heq
        exact ⟨name, hcs, derives_word hident⟩

theorem numberLexeme?_eq_none {c : Char} (hdigit : c.isDigit = false) (hpoint : c ≠ '.')
    (t : List Char) : Expr.numberLexeme? (c :: t) = none := by
  have hfraction : Expr.fractionLexeme (c :: t) = ([], c :: t) :=
    fractionLexeme_of_no_digit fun t h => absurd (List.cons.inj h).1 hpoint
  simp [Expr.numberLexeme?, hdigit, hfraction]

theorem atom?_number (n : Numeral) {rest : List Char} (hrest : Apart rest) :
    Expr.atom? (n.text ++ rest) = some (.num n.value, rest) := by
  simp [Expr.atom?, n.numberLexeme?_text hrest, decimal?_text]

theorem atom?_text {quote : Char} {pieces : List Piece} (hquote : quote ∈ ['"', '\''])
    (hfit : ∀ piece ∈ pieces, piece.Fits quote) (rest : List Char) :
    Expr.atom? (quote :: pieces.flatMap Piece.text ++ [quote] ++ rest)
      = some (.str (String.ofList (pieces.map Piece.char)), rest) := by
  have hbody : Expr.stringBody? quote (pieces.flatMap Piece.text ++ quote :: rest) = _ :=
    stringBody?_append (by rintro rfl; simp at hquote) hfit
  have hlexeme : Expr.numberLexeme? (quote :: (pieces.flatMap Piece.text ++ quote :: rest)) = none :=
    numberLexeme?_eq_none
      (forall_mem_of_all (p := fun c => c.isDigit = false) (by decide) quote hquote)
      (by rintro rfl; simp at hquote) _
  have hquote : (quote = '"' || quote = '\'') = true := by simpa using hquote
  simp [Expr.atom?, hlexeme, hquote, hbody]

theorem atom?_word {name rest : List Char} (hname : Text.isIdentifier name = true)
    (hrest : Apart rest) :
    Expr.atom? (name ++ rest) = some (wordTree name, rest) := by
  have hread := identifier?_append hname hrest
  obtain ⟨c, t, rfl, hc⟩ := isIdentifier_cons hname
  obtain ⟨hdigit, hmark⟩ := identifierStart_apart hc
  simp only [List.mem_cons, List.not_mem_nil, or_false, not_or] at hmark
  obtain ⟨hpoint, hdouble, hsingle, -⟩ := hmark
  rw [List.cons_append] at hread ⊢
  simp only [Expr.atom?, numberLexeme?_eq_none hdigit hpoint, hdouble, hsingle, hread,
    Option.map_some, pair_wordTree]
  rfl

end Runbook.Grammar

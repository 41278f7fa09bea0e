import Runbook.Proofs.Expr.Literals

/-! # How derivable texts begin, and what may come after them -/

namespace Runbook.Grammar

/-! ## First characters -/

def Phrase.Starts : Phrase → Char → Prop
  | .primary _, c | .suffixed _, c => startsPrimary c = true
  | _, c => startsPrimary c = true ∨ ∃ op : UnaryOp, c = op.symbol

theorem Phrase.Starts.weaken {p : Phrase} {c : Char} (h : p.Starts c) :
    startsPrimary c = true ∨ ∃ op : UnaryOp, c = op.symbol := by
  cases p with
  | primary e | suffixed e => exact .inl h
  | level rank e | prefixed e | arguments es => exact h

theorem Derives.start {p : Phrase} {s : List Char} (h : Derives p s) :
    ∃ c t, s = c :: t ∧ p.Starts c := by
  induction h with
  | prefixed _ ih | tighter _ _ ih | argument _ ih => exact ih
  | suffixed _ ih =>
    obtain ⟨c, t, hs, hc⟩ := ih
    exact ⟨c, t, hs, .inl hc⟩
  | primary _ ih => exact ih
  | binary _ _ _ _ ih _ | member _ _ _ _ ih | index _ _ _ _ _ ih _ | call _ _ _ _ _ ih _
  | callNone _ _ _ ih | arguments _ _ _ _ ih _ =>
    obtain ⟨c, t, rfl, hc⟩ := ih
    exact ⟨c, _, rfl, hc⟩
  | @unary op e g s hg h ih => exact ⟨op.symbol, g ++ s, rfl, .inr ⟨op, rfl⟩⟩
  | number n =>
    obtain ⟨c, t, hs, hc⟩ := n.text_cons
    refine ⟨c, t, hs, ?_⟩
    rcases hc with hdigit | rfl
    · simp [Phrase.Starts, startsPrimary, hdigit]
    · rfl
  | @text quote pieces hquote hpieces =>
    refine ⟨quote, _, rfl, ?_⟩
    simp only [List.mem_cons, List.not_mem_nil, or_false] at hquote
    rcases hquote with rfl | rfl <;> rfl
  | true => exact ⟨'t', "rue".toList, rfl, (by decide : startsPrimary 't')⟩
  | false => exact ⟨'f', "alse".toList, rfl, (by decide : startsPrimary 'f')⟩
  | var hname _ _ =>
    obtain ⟨c, t, rfl, hc⟩ := isIdentifier_cons hname
    exact ⟨c, t, rfl, by simp [Phrase.Starts, startsPrimary, hc]⟩
  | parenthesised _ _ _ _ => exact ⟨'(', _, rfl, rfl⟩

theorem Derives.head_not_mem {p : Phrase} {s : List Char} (h : Derives p s) :
    ∃ c t, s = c :: t ∧ c ∉ [' ', '\t', '\r', '\n', '=', ')'] := by
  obtain ⟨c, t, rfl, hc⟩ := h.start
  refine ⟨c, t, rfl, fun hmem => ?_⟩
  rcases hc.weaken with hstart | ⟨op, rfl⟩
  · rw [startsPrimary_eq_false (List.mem_append_left ['!', '-', '+'] hmem)] at hstart
    simp at hstart
  · revert hmem
    cases op <;> decide

theorem Derives.stops_isGap {p : Phrase} {s : List Char} (h : Derives p s) (rest : List Char) :
    Stops Expr.isGap (s ++ rest) := by
  obtain ⟨c, t, rfl, hc⟩ := h.head_not_mem
  refine .cons ?_ (t ++ rest)
  rw [Bool.eq_false_iff, Ne, isGap_iff]
  exact fun hgap => hc (List.mem_append_left ['=', ')'] hgap)

theorem stops_isGap_name {name : List Char} (h : Text.isIdentifier name = true) (rest : List Char) :
    Stops Expr.isGap (name ++ rest) := by
  obtain ⟨c, t, rfl, hc⟩ := isIdentifier_cons h
  refine .cons ?_ (t ++ rest)
  rw [Bool.eq_false_iff, Ne, isGap_iff]
  intro hgap
  have hstart := startsPrimary_eq_false (List.mem_append_left ['=', ')', '!', '-', '+'] hgap)
  simp [startsPrimary, hc] at hstart

theorem Derives.stops_equals {p : Phrase} {s g : List Char} (h : Derives p s) (hg : Gap g)
    (rest : List Char) : Stops (· = '=') (g ++ (s ++ rest)) := by
  cases g with
  | nil =>
    obtain ⟨c, t, rfl, hc⟩ := h.head_not_mem
    exact .cons (by simpa using fun hc' => hc (by simp [hc'])) (t ++ rest)
  | cons c g =>
    have hc := hg c (by simp)
    exact .cons (by simpa using fun hc' => by simp [hc'] at hc) _

/-! ## What may follow -/

/-- The operators that begin with that character bind at least so tightly. -/
def bindsFrom (rank : Nat) (c : Char) : Bool := (tightness c).any (rank ≤ ·)

/-- Nothing that binds at least so tightly comes next. -/
def Quiet (rank : Nat) (rest : List Char) : Prop := Stops (bindsFrom rank) (Expr.skipGap rest)

theorem Quiet.mono {rank rank' : Nat} {rest : List Char} (h : Quiet rank rest)
    (hle : rank ≤ rank') : Quiet rank' rest := by
  intro c t hrest
  have hc := h c t hrest
  cases htight : tightness c with
  | none => simp [bindsFrom, htight]
  | some k =>
    simp only [bindsFrom, htight, Option.any_some, decide_eq_false_iff_not] at hc ⊢
    omega

theorem Quiet.gap_append {rank : Nat} {g rest : List Char} (hg : Gap g) (h : Quiet rank rest) :
    Quiet rank (g ++ rest) := by
  rwa [Quiet, skipGap_gap_append hg]

theorem Quiet.cons {rank : Nat} {c : Char} (hgap : Expr.isGap c = false)
    (hbinds : bindsFrom rank c = false) (t : List Char) : Quiet rank (c :: t) := by
  rw [Quiet, skipGap_of_stops (.cons hgap t)]
  exact .cons hbinds t

theorem Quiet.nil {rank : Nat} : Quiet rank [] := Stops.nil

theorem Quiet.operator?_eq_none {rank : Nat} {rest : List Char} (h : Quiet rank rest) :
    Expr.operator? (opsAt rank) (Expr.skipGap rest) = none := by
  apply Grammar.operator?_eq_none
  intro c t hrest
  have hc := h c t hrest
  simp only [decide_eq_false_iff_not]
  intro htight
  simp [bindsFrom, htight] at hc

theorem stops_isGap_symbol {op : BinaryOp} (t : List Char) :
    Stops Expr.isGap (op.symbol.toList ++ t) := by
  obtain ⟨c, cs, hsymbol, -, hgap, -⟩ := symbol_cons op
  rw [hsymbol]
  exact .cons hgap (cs ++ t)

theorem follow_symbol (op : BinaryOp) {g : List Char} (hg : Gap g) (t : List Char) :
    Apart (g ++ (op.symbol.toList ++ t)) ∧ Quiet (op.rank + 1) (g ++ (op.symbol.toList ++ t)) := by
  obtain ⟨c, cs, hsymbol, htight, -, hword, hpoint⟩ := symbol_cons op
  refine ⟨.gap_append hg ?_, .gap_append hg ?_⟩
  · rw [hsymbol]
    exact .cons hword hpoint
  · rw [Quiet, skipGap_of_stops (stops_isGap_symbol t), hsymbol]
    exact .cons (by simp [bindsFrom, htight]) (cs ++ t)

theorem follow_mark {c : Char} (hc : c ∈ [',', ')', ']']) {g : List Char} (hg : Gap g)
    (t : List Char) : Apart (g ++ c :: t) ∧ Quiet 0 (g ++ c :: t) := by
  obtain ⟨hword, hpoint, hgap, hbinds⟩ := forall_mem_of_all
    (p := fun c => isWordPart c = false ∧ c ≠ '.' ∧ Expr.isGap c = false ∧ bindsFrom 0 c = false)
    (by decide) c hc
  exact ⟨.gap_append hg (.cons hword hpoint), .gap_append hg (.cons hgap hbinds t)⟩

theorem apart_bracket {c : Char} (hc : c ∈ ['[', '(']) {g : List Char} (hg : Gap g)
    (t : List Char) : Apart (g ++ c :: t) := by
  obtain ⟨hword, hpoint⟩ :=
    forall_mem_of_all (p := fun c => isWordPart c = false ∧ c ≠ '.') (by decide) c hc
  exact .gap_append hg (.cons hword hpoint)

theorem apart_member {g h name : List Char} (hg : Gap g) (hh : Gap h)
    (hname : Text.isIdentifier name = true) (t : List Char) :
    Apart (g ++ '.' :: (h ++ (name ++ t))) := by
  refine .gap_append hg fun c u heq => ?_
  obtain ⟨rfl, rfl⟩ := List.cons.inj heq
  refine ⟨by decide, fun _ d v hd => ?_⟩
  cases h with
  | nil =>
    obtain ⟨c, w, rfl, hc⟩ := isIdentifier_cons hname
    obtain ⟨rfl, -⟩ := List.cons.inj hd
    exact (identifierStart_apart hc).1
  | cons c h =>
    obtain ⟨rfl, -⟩ := List.cons.inj hd
    exact forall_mem_of_all (p := fun c => c.isDigit = false) (by decide) c (hh c (by simp))

end Runbook.Grammar

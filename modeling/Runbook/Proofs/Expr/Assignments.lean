import Runbook.Expr.Assignment
import Runbook.Proofs.Expr.Acceptance

/-!
# The form of an assignment

A text reads as one exactly if it has the form, it has the form in one way only, and it is then no
expression: after the name that an expression begins with comes nothing, a bracket, a point, or a
whole operator and its operand.
-/

namespace Runbook

def UpdateOp.symbol : UpdateOp → Char
  | add => '+'
  | sub => '-'
  | mul => '*'
  | div => '/'

namespace Assignment

open Grammar

/-! ## The form -/

/-- An assignment as it is written: a name, perhaps an operator, an equals sign and a value. -/
structure Form where
  name : List Char
  gap : List Char
  op : Option UpdateOp
  space : List Char
  value : List Char
  name_identifier : Text.isIdentifier name = true
  gap_space : ∀ c ∈ gap, isSpace c = true
  space_space : ∀ c ∈ space, isSpace c = true
  /-- No other equals sign follows the first. -/
  equals : Stops (· = '=') (space ++ value)
  value_ne_nil : value ≠ []
  value_head : Stops isSpace value

namespace Form

/-- What stands before the equals sign and is no part of the name. -/
def mark (f : Form) : List Char := (f.op.map UpdateOp.symbol).toList

def tail (f : Form) : List Char := f.gap ++ f.mark ++ '=' :: f.space ++ f.value

def text (f : Form) : List Char := f.name ++ f.tail

def assignment (f : Form) : Assignment :=
  ⟨String.ofList f.name, f.op, String.ofList (Text.trimChars f.value)⟩

end Form

theorem ofChar?_eq_some_iff {c : Char} {op : UpdateOp} :
    UpdateOp.ofChar? c = some op ↔ c = op.symbol := by
  constructor
  · intro h
    unfold UpdateOp.ofChar? at h
    split at h <;> simp at h <;> subst h <;> rfl
  · rintro rfl
    cases op <;> rfl

/-! ## From the text to the form -/

theorem operator_eq {cs rest : List Char} {op : Option UpdateOp} (h : operator cs = (op, rest)) :
    cs = (op.map UpdateOp.symbol).toList ++ rest := by
  unfold operator at h
  split at h
  · obtain ⟨rfl, rfl⟩ := Prod.mk.inj h
    rfl
  · rename_i c after
    split at h
    · rename_i found hc
      obtain ⟨rfl, rfl⟩ := Prod.mk.inj h
      rw [ofChar?_eq_some_iff.mp hc]
      rfl
    · obtain ⟨rfl, rfl⟩ := Prod.mk.inj h
      rfl

theorem value?_eq_some {cs value : List Char} (h : value? cs = some value) :
    ∃ after, cs = '=' :: after ∧ Stops (· = '=') after ∧ value = after.dropWhile isSpace ∧
      value ≠ [] := by
  unfold value? at h
  split at h
  · simp at h
  · rename_i after hafter
    split at h
    · simp at h
    · rename_i hne
      obtain rfl := Option.some.inj h
      refine ⟨after, rfl, ?_, rfl, hne⟩
      intro c t hc
      simp only [decide_eq_false_iff_not]
      rintro rfl
      exact hafter t hc
  · simp at h

theorem stops_dropWhile {p : Char → Bool} (cs : List Char) : Stops p (cs.dropWhile p) := by
  intro c t h
  have hhead := List.head?_dropWhile_not p cs
  rw [h] at hhead
  simpa using hhead

theorem form_of_parse? {text : String} {a : Assignment} (h : parse? text = some a) :
    ∃ f : Form, f.text = Text.trimChars text.toList ∧ f.assignment = a := by
  unfold parse? at h
  obtain ⟨⟨name, rest⟩, hname, h⟩ := Option.bind_eq_some_iff.mp h
  obtain ⟨hidentifier, hcs⟩ := identifier?_eq_some hname
  cases hop : operator (rest.dropWhile isSpace) with
  | mk op rest' =>
    simp only [hop] at h
    obtain ⟨value, hvalue, h⟩ := Option.bind_eq_some_iff.mp h
    obtain ⟨after, hafter, hequals, hdrop, hne⟩ := value?_eq_some hvalue
    have hspaces : ∀ cs : List Char, ∀ c ∈ cs.takeWhile isSpace, isSpace c = true :=
      fun cs => List.all_eq_true.mp List.all_takeWhile
    have hsplit : after.takeWhile isSpace ++ value = after := by
      rw [hdrop, List.takeWhile_append_dropWhile]
    have hhead : Stops isSpace value := by
      rw [hdrop]
      exact stops_dropWhile after
    refine ⟨⟨name, rest.takeWhile isSpace, op, after.takeWhile isSpace, value, hidentifier,
      hspaces rest, hspaces after, by rwa [hsplit], hne, hhead⟩, ?_, Option.some.inj h⟩
    have htail : rest.takeWhile isSpace ++ ((op.map UpdateOp.symbol).toList ++
        '=' :: (after.takeWhile isSpace ++ value)) = rest := by
      rw [hsplit, ← hafter, ← operator_eq hop, List.takeWhile_append_dropWhile]
    rw [hcs]
    simpa [Form.text, Form.tail, Form.mark] using htail

/-! ## From the form to the text -/

namespace Form

variable (f : Form)

theorem mark_cons : ∃ c t, f.mark ++ '=' :: (f.space ++ f.value) = c :: t ∧
    c ∈ ['+', '-', '*', '/', '='] := by
  cases hop : f.op with
  | none => exact ⟨'=', f.space ++ f.value, by simp [mark, hop], by simp⟩
  | some op =>
    refine ⟨op.symbol, '=' :: (f.space ++ f.value), by simp [mark, hop], ?_⟩
    cases op <;> decide

theorem tail_eq : f.tail = f.gap ++ (f.mark ++ '=' :: (f.space ++ f.value)) := by
  simp [tail]

theorem gap_gap : Gap f.gap := by
  intro c hc
  have hspace := f.gap_space c hc
  simp only [isSpace, Bool.or_eq_true, decide_eq_true_eq] at hspace
  rcases hspace with rfl | rfl <;> simp

theorem apart_tail : Apart f.tail := by
  obtain ⟨c, t, hmark, hc⟩ := f.mark_cons
  obtain ⟨hword, hpoint⟩ :=
    forall_mem_of_all (p := fun c => isWordPart c = false ∧ c ≠ '.') (by decide) c hc
  rw [tail_eq, hmark]
  exact .gap_append f.gap_gap (.cons hword hpoint)

theorem identifier?_text : Text.identifier? f.text = some (f.name, f.tail) :=
  identifier?_append f.name_identifier f.apart_tail

theorem spaces_tail : f.tail.takeWhile isSpace = f.gap ∧
    f.tail.dropWhile isSpace = f.mark ++ '=' :: (f.space ++ f.value) := by
  obtain ⟨c, t, hmark, hc⟩ := f.mark_cons
  have hstop : isSpace c = false :=
    forall_mem_of_all (p := fun c => isSpace c = false) (by decide) c hc
  rw [tail_eq]
  apply takeWhile_append_of_stops f.gap_space
  rw [hmark]
  exact .cons hstop t

theorem operator_mark (t : List Char) : operator (f.mark ++ '=' :: t) = (f.op, '=' :: t) := by
  cases hop : f.op with
  | none => simp [mark, hop, operator, UpdateOp.ofChar?]
  | some op =>
    have hsymbol := ofChar?_eq_some_iff.mpr (rfl : op.symbol = op.symbol)
    simp [mark, hop, operator, hsymbol]

theorem spaces_value : (f.space ++ f.value).takeWhile isSpace = f.space ∧
    (f.space ++ f.value).dropWhile isSpace = f.value :=
  takeWhile_append_of_stops f.space_space f.value_head

theorem value?_equals : value? ('=' :: (f.space ++ f.value)) = some f.value := by
  have hdrop := f.spaces_value.2
  unfold value?
  split
  · rename_i t heq
    have := f.equals '=' t (List.cons.inj heq).2
    simp at this
  · rename_i rest _ heq
    obtain rfl := (List.cons.inj heq).2
    rw [hdrop]
    split
    · rename_i hnil
      exact absurd hnil f.value_ne_nil
    · rfl
  · rename_i hne
    exact absurd rfl (hne _)

theorem parse?_of_text {text : String} (h : f.text = Text.trimChars text.toList) :
    parse? text = some f.assignment := by
  unfold parse?
  rw [← h, f.identifier?_text]
  simp only [Option.bind_eq_bind, Option.bind_some, f.spaces_tail.2, f.operator_mark,
    f.value?_equals]
  rfl

end Form

theorem Form.text_injective {f g : Form} (h : f.text = g.text) : f = g := by
  have hname : (f.name, f.tail) = (g.name, g.tail) := by
    apply Option.some.inj
    rw [← f.identifier?_text, ← g.identifier?_text, h]
  obtain ⟨hname, htail⟩ := Prod.mk.inj hname
  have hgap : f.gap = g.gap := by rw [← f.spaces_tail.1, ← g.spaces_tail.1, htail]
  have hop : (f.op, '=' :: (f.space ++ f.value)) = (g.op, '=' :: (g.space ++ g.value)) := by
    rw [← f.operator_mark, ← g.operator_mark, ← f.spaces_tail.2, ← g.spaces_tail.2, htail]
  obtain ⟨hop, hequals⟩ := Prod.mk.inj hop
  have hvalue := (List.cons.inj hequals).2
  have hspace : f.space = g.space := by rw [← f.spaces_value.1, ← g.spaces_value.1, hvalue]
  have hvalue : f.value = g.value := by rw [← f.spaces_value.2, ← g.spaces_value.2, hvalue]
  cases f
  cases g
  simp_all

theorem mem_dropWhile {p : Char → Bool} {cs : List Char} {c : Char} (hmem : c ∈ cs)
    (hc : p c = false) : c ∈ cs.dropWhile p := by
  rw [← List.takeWhile_append_dropWhile (p := p) (l := cs), List.mem_append] at hmem
  rcases hmem with hfront | hrest
  · have := List.all_eq_true.mp List.all_takeWhile c hfront
    simp [hc] at this
  · exact hrest

theorem mem_trimChars {cs : List Char} {c : Char} (hmem : c ∈ cs) (hc : Text.isBlank c = false) :
    c ∈ Text.trimChars cs := by
  have hstart : c ∈ (Text.trimStart cs).reverse := List.mem_reverse.mpr (mem_dropWhile hmem hc)
  exact List.mem_reverse.mpr (mem_dropWhile hstart hc)

theorem Form.trimChars_value {f : Form} {cs : List Char} (h : f.text = Text.trimChars cs) :
    Text.trimChars f.value ≠ [] := by
  rcases List.eq_nil_or_concat f.value with hnil | ⟨front, c, hvalue⟩
  · exact absurd hnil f.value_ne_nil
  · have hc : Text.isBlank c = false := by
      apply isBlank_of_trimChars (s := f.name ++ f.gap ++ f.mark ++ '=' :: f.space ++ front)
      rw [← h]
      simp [text, tail, hvalue]
    exact List.ne_nil_of_mem (mem_trimChars (by simp [hvalue]) hc)

end Assignment

/-! ## What follows a name in an expression -/

namespace Grammar

/-- How a phrase goes on after a name and a gap. -/
inductive Continues : List Char → Prop where
  | mark {c : Char} {t : List Char} (h : c ∈ ['.', '[', '(', ',']) : Continues (c :: t)
  | operator (op : BinaryOp) {c : Char} {t : List Char} (h : c ≠ '=') :
    Continues (op.symbol.toList ++ c :: t)

def Follows (rest : List Char) : Prop := rest = [] ∨ ∃ g t, Gap g ∧ rest = g ++ t ∧ Continues t

theorem Continues.append {t : List Char} (h : Continues t) (u : List Char) :
    Continues (t ++ u) := by
  cases h with
  | mark hc => exact .mark hc
  | operator op hc =>
    rw [List.append_assoc]
    exact .operator op hc

theorem Follows.append {r x : List Char} (hr : Follows r) (hx : Follows x) :
    Follows (r ++ x) := by
  rcases hr with rfl | ⟨g, t, hg, rfl, ht⟩
  · exact hx
  · exact .inr ⟨g, t ++ x, hg, by simp, ht.append x⟩

theorem follows_mark {c : Char} (hc : c ∈ ['.', '[', '(', ',']) {g : List Char} (hg : Gap g)
    (t : List Char) : Follows (g ++ c :: t) :=
  .inr ⟨g, c :: t, hg, rfl, .mark hc⟩

theorem follows_operator (op : BinaryOp) {g h t : List Char} {p : Phrase} (hg : Gap g) (hh : Gap h)
    (ht : Derives p t) : Follows (g ++ (op.symbol.toList ++ (h ++ t))) := by
  have hstop := ht.stops_equals hh []
  rw [List.append_nil] at hstop
  cases hnext : h ++ t with
  | nil =>
    obtain ⟨c, u, rfl, -⟩ := ht.start
    simp at hnext
  | cons c u =>
    rw [hnext] at hstop
    exact .inr ⟨g, _, hg, rfl, .operator op (by simpa using hstop.head)⟩

theorem isIdentifierPart_of_mem {name : List Char} (hname : Text.isIdentifier name = true) {c : Char}
    {front back : List Char} (h : name = front ++ c :: back) (hfront : front ≠ []) :
    Text.isIdentifierPart c = true := by
  obtain ⟨first, front, rfl⟩ := List.exists_cons_of_ne_nil hfront
  subst h
  rw [List.cons_append, Text.isIdentifier, Bool.and_eq_true, List.all_eq_true] at hname
  exact hname.2 c (by simp)

theorem name_in_front {s x name rest : List Char} (h : s ++ x = name ++ rest) (hs : s ≠ [])
    (hname : Text.isIdentifier name = true) (hrest : Stops Text.isIdentifierPart rest)
    (hx : Stops Text.isIdentifierPart x) :
    ∃ r, s = name ++ r ∧ rest = r ++ x ∧ Stops Text.isIdentifierPart r := by
  rcases List.append_eq_append_iff.mp h with ⟨r, hname', hx'⟩ | ⟨r, hs', hrest'⟩
  · cases r with
    | nil => exact ⟨[], by simp [hname'], by simp [hx'], .nil⟩
    | cons c r =>
      have hpart := isIdentifierPart_of_mem hname hname' hs
      rw [hx c (r ++ rest) hx'] at hpart
      simp at hpart
  · refine ⟨r, hs', hrest', ?_⟩
    intro c t hr
    exact hrest c (t ++ x) (by simp [hrest', hr])

theorem identifierStart_of_append {name rest t : List Char} {c : Char} (h : c :: t = name ++ rest)
    (hname : Text.isIdentifier name = true) : Text.isIdentifierStart c = true := by
  obtain ⟨first, back, rfl, hfirst⟩ := isIdentifier_cons hname
  rw [(List.cons.inj h).1]
  exact hfirst

theorem rest_eq_nil {s name rest : List Char} (hs : Text.isIdentifier s = true)
    (h : s = name ++ rest) (hname : Text.isIdentifier name = true)
    (hrest : Stops Text.isIdentifierPart rest) : rest = [] := by
  cases rest with
  | nil => rfl
  | cons c t =>
    obtain ⟨first, back, rfl, -⟩ := isIdentifier_cons hname
    have hpart := isIdentifierPart_of_mem hs h (by simp)
    rw [hrest.head] at hpart
    simp at hpart

theorem follows_front {p : Phrase} {s x name rest : List Char} (h : Derives p s)
    (ih : ∀ {rest}, s = name ++ rest → Stops Text.isIdentifierPart rest → Follows rest)
    (hname : Text.isIdentifier name = true) (hs : s ++ x = name ++ rest)
    (hrest : Stops Text.isIdentifierPart rest) (hx : Apart x ∧ Follows x) : Follows rest := by
  obtain ⟨c, t, hcons, -⟩ := h.start
  obtain ⟨r, hr, rfl, hstops⟩ := name_in_front hs (by simp [hcons]) hname hrest hx.1.not_part
  exact (ih hr hstops).append hx.2

theorem follows_name {p : Phrase} {s name rest : List Char} (h : Derives p s)
    (hname : Text.isIdentifier name = true) (hs : s = name ++ rest)
    (hrest : Stops Text.isIdentifierPart rest) : Follows rest := by
  induction h generalizing rest with
  | prefixed _ ih | tighter _ _ ih | suffixed _ ih | primary _ ih | argument _ ih =>
    exact ih hs hrest
  | @binary op l r s g k t hl hg hk hr ih _ =>
    have hs : s ++ (g ++ (op.symbol.toList ++ (k ++ t))) = name ++ rest := by simpa using hs
    exact follows_front hl ih hname hs hrest
      ⟨(follow_symbol op hg (k ++ t)).1, follows_operator op hg hk hr⟩
  | @member e s g k member he hg hk hmember ih =>
    have hs : s ++ (g ++ '.' :: (k ++ member)) = name ++ rest := by simpa using hs
    have hapart := apart_member hg hk hmember []
    rw [List.append_nil] at hapart
    exact follows_front he ih hname hs hrest ⟨hapart, follows_mark (by simp) hg _⟩
  | @index e key s g k t m he hg hk hkey hm ih _ =>
    have hs : s ++ (g ++ '[' :: (k ++ t ++ m ++ [']'])) = name ++ rest := by simpa using hs
    exact follows_front he ih hname hs hrest
      ⟨apart_bracket (by simp) hg _, follows_mark (by simp) hg _⟩
  | @call e args s g k t m he hg hk hargs hm ih _ =>
    have hs : s ++ (g ++ '(' :: (k ++ t ++ m ++ [')'])) = name ++ rest := by simpa using hs
    exact follows_front he ih hname hs hrest
      ⟨apart_bracket (by simp) hg _, follows_mark (by simp) hg _⟩
  | @callNone e s g k he hg hk ih =>
    have hs : s ++ (g ++ '(' :: (k ++ [')'])) = name ++ rest := by simpa using hs
    exact follows_front he ih hname hs hrest
      ⟨apart_bracket (by simp) hg _, follows_mark (by simp) hg _⟩
  | @arguments e es s g k t he hg hk hes ih _ =>
    have hs : s ++ (g ++ ',' :: (k ++ t)) = name ++ rest := by simpa using hs
    exact follows_front he ih hname hs hrest
      ⟨(follow_mark (by simp) hg _).1, follows_mark (by simp) hg _⟩
  | true | false => exact .inl (rest_eq_nil (by decide) hs hname hrest)
  | var hword _ _ => exact .inl (rest_eq_nil hword hs hname hrest)
  -- the others do not begin with a name
  | @unary op e g s hg h ih =>
    have hstart := identifierStart_of_append hs hname
    exfalso
    revert hstart
    cases op <;> decide
  | number n =>
    obtain ⟨c, t, hcons, hc⟩ := n.text_cons
    have hstart := identifierStart_of_append (hcons.symm.trans hs) hname
    obtain ⟨hdigit, hmark⟩ := identifierStart_apart hstart
    rcases hc with hc | rfl
    · simp [hdigit] at hc
    · simp at hmark
  | @text quote pieces hquote hpieces =>
    have hmark := (identifierStart_apart (identifierStart_of_append hs hname)).2
    simp only [List.mem_cons, List.not_mem_nil, or_false] at hquote
    rcases hquote with rfl | rfl <;> simp at hmark
  | @parenthesised e g s k hg he hk ih =>
    have hmark := (identifierStart_apart (identifierStart_of_append hs hname)).2
    simp at hmark

theorem Continues.stops_isGap {t : List Char} (h : Continues t) : Stops Expr.isGap t := by
  cases h with
  | @mark c t hc =>
    exact .cons (forall_mem_of_all (p := fun c => Expr.isGap c = false) (by decide) c hc) t
  | operator op hc => exact stops_isGap_symbol _

end Grammar

/-! ## Assignments are no expressions -/

namespace Assignment

open Grammar

/-- No operator of expressions ends right before the equals sign of an assignment. -/
theorem Form.not_continues (f : Form) :
    ¬Continues (f.mark ++ '=' :: (f.space ++ f.value)) := by
  intro h
  have hequals : ∀ t, f.space ++ f.value ≠ '=' :: t := by
    intro t ht
    have := f.equals '=' t ht
    simp at this
  generalize hx : f.mark ++ '=' :: (f.space ++ f.value) = x at h
  cases h with
  | @mark c t hc =>
    obtain ⟨first, back, hmark, hfirst⟩ := f.mark_cons
    obtain ⟨rfl, -⟩ := List.cons.inj (hmark.symm.trans hx)
    revert hc
    exact forall_mem_of_all (p := fun c => c ∉ ['.', '[', '(', ',']) (by decide) first hfirst
  | @operator op c t hc =>
    cases hop : f.op with
    | none =>
      cases op <;> simp [mark, hop, BinaryOp.symbol] at hx
      all_goals exact hequals _ hx
    | some update =>
      cases update <;> cases op <;> simp [mark, hop, BinaryOp.symbol, UpdateOp.symbol] at hx
      all_goals exact hc hx.1.symm

theorem Form.not_expresses (f : Form) (e : Expr) : ¬Expresses f.text e := by
  intro h
  obtain ⟨c, t, hmark, hc⟩ := f.mark_cons
  have hgap : Expr.isGap c = false :=
    forall_mem_of_all (p := fun c => Expr.isGap c = false) (by decide) c hc
  rcases follows_name h f.name_identifier rfl f.apart_tail.not_part with
    hnil | ⟨g, u, hg, htail, hu⟩
  · simp [tail] at hnil
  · -- both gaps end where the operator begins
    have hskip : Expr.skipGap f.tail = f.mark ++ '=' :: (f.space ++ f.value) := by
      rw [tail_eq, hmark]
      exact skipGap_append f.gap_gap (.cons hgap t)
    rw [htail, skipGap_append hg hu.stops_isGap] at hskip
    exact f.not_continues (hskip ▸ hu)

/-- A text reads as an assignment exactly if, trimmed, it has the form of one; the form fixes the
name, the operator and the value, which is never empty, and a text has it in one way. No text is
both an assignment and an expression. -/
theorem parse?_iff_form (text : String) :
    (∀ a, parse? text = some a ↔
      ∃ f : Form, f.text = Text.trimChars text.toList ∧ f.assignment = a) ∧
    (∀ f g : Form, f.text = Text.trimChars text.toList → g.text = Text.trimChars text.toList →
      f = g) ∧
    (∀ a, parse? text = some a → a.value ≠ "") ∧
    (∀ a e, ¬(parse? text = some a ∧ Expr.parse text = .ok e)) := by
  refine ⟨fun a => ⟨form_of_parse?, ?_⟩, ?_, ?_, ?_⟩
  · rintro ⟨f, hf, rfl⟩
    exact f.parse?_of_text hf
  · intro f g hf hg
    exact Form.text_injective (hf.trans hg.symm)
  · intro a ha
    obtain ⟨f, hf, rfl⟩ := form_of_parse? ha
    simpa [Form.assignment] using f.trimChars_value hf
  · rintro a e ⟨ha, he⟩
    obtain ⟨f, hf, rfl⟩ := form_of_parse? ha
    have hexpresses := parseChars_trimmed_iff.mp (parse_eq_ok_iff.mp he)
    rw [← hf] at hexpresses
    exact f.not_expresses e hexpresses

theorem parse?_iff_form_spaced :
    parse? " total\t*= =x " = some ⟨"total", some .mul, "=x"⟩ ∧
      ∀ e, Expr.parse " total\t*= =x " ≠ .ok e := by
  let f : Form := ⟨"total".toList, ['\t'], some .mul, [' '], "=x".toList, by decide,
    by simp [isSpace], by simp [isSpace], .cons (by decide) _, by decide, .cons (by decide) _⟩
  have hf : f.text = Text.trimChars " total\t*= =x ".toList := by decide
  obtain ⟨hiff, -, -, hexpr⟩ := parse?_iff_form " total\t*= =x "
  have hparse := (hiff _).mpr ⟨f, hf, rfl⟩
  exact ⟨hparse, fun e he => hexpr _ e ⟨hparse, he⟩⟩

end Assignment

end Runbook

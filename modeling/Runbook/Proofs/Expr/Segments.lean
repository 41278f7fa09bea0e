import Runbook.Expr.Template

/-!
# A text is literal text and code between braces in one way only

The braces in code match, literal text has no opening brace, and from an opening brace that is
never closed all is text.
-/

namespace Runbook

def Segment.source : Segment String → List Char
  | .text v => v.toList
  | .code c => '\x7b' :: (c.toList ++ ['\x7d'])

namespace Template

/-! ## Braces -/

/-- Nowhere are more braces closed than were opened, if `depth` braces are open before. -/
def Held (depth : Nat) (cs : List Char) : Prop :=
  ∀ front, front <+: cs → front.count '\x7d' ≤ front.count '\x7b' + depth

structure Balanced (cs : List Char) : Prop where
  front_le : ∀ front, front <+: cs → front.count '\x7d' ≤ front.count '\x7b'
  total_eq : cs.count '\x7b' = cs.count '\x7d'

/-- The text begins with a brace that is never closed. -/
structure Unclosed (cs : List Char) : Prop where
  head_eq : cs.head? = some '\x7b'
  front_lt : ∀ front, front <+: cs → front ≠ [] → front.count '\x7d' < front.count '\x7b'

section

variable {depth : Nat} {c : Char} {cs : List Char}

theorem Held.cons (h : Held depth (c :: cs)) {front : List Char} (hfront : front <+: cs) :
    (c :: front).count '\x7d' ≤ (c :: front).count '\x7b' + depth :=
  h (c :: front) (List.cons_prefix_cons.mpr ⟨rfl, hfront⟩)

theorem Held.opened (h : Held depth ('\x7b' :: cs)) : Held (depth + 1) cs := by
  intro front hfront
  have hcons := h.cons hfront
  simp at hcons
  omega

theorem Held.closed (h : Held depth ('\x7d' :: cs)) : ∃ inner, depth = inner + 1 ∧ Held inner cs := by
  have hfirst := h.cons (List.nil_prefix)
  simp at hfirst
  refine ⟨depth - 1, by omega, ?_⟩
  intro front hfront
  have hcons := h.cons hfront
  simp at hcons
  omega

theorem Held.other (hopen : c ≠ '\x7b') (hclose : c ≠ '\x7d') (h : Held depth (c :: cs)) :
    Held depth cs := by
  intro front hfront
  have hcons := h.cons hfront
  simpa [List.count_cons_of_ne, hopen, hclose] using hcons

theorem Held.concat (h : Held depth cs)
    (hc : (cs ++ [c]).count '\x7d' ≤ (cs ++ [c]).count '\x7b' + depth) : Held depth (cs ++ [c]) := by
  intro front hfront
  rcases List.prefix_concat_iff.mp hfront with rfl | hshort
  · exact hc
  · exact h front hshort

theorem Balanced.held (h : Balanced cs) : Held 0 cs := h.front_le

theorem Unclosed.exists_cons (h : Unclosed cs) : ∃ rest, cs = '\x7b' :: rest ∧ Held 0 rest := by
  obtain ⟨rest, rfl⟩ := List.head?_eq_some_iff.mp h.head_eq
  refine ⟨rest, rfl, ?_⟩
  intro front hfront
  have hlt := h.front_lt ('\x7b' :: front) (List.cons_prefix_cons.mpr ⟨rfl, hfront⟩) (by simp)
  simp at hlt
  omega

theorem unclosed_cons (h : Held 0 cs) : Unclosed ('\x7b' :: cs) := by
  refine ⟨rfl, ?_⟩
  intro front hfront hne
  obtain ⟨first, rest, rfl⟩ := List.exists_cons_of_ne_nil hne
  obtain ⟨rfl, hrest⟩ := List.cons_prefix_cons.mp hfront
  have hle := h rest hrest
  simp
  omega

end

/-! ## Segments in their order -/

structure Arranged (segments : List (Segment String)) : Prop where
  code : ∀ c, .code c ∈ segments → Balanced c.toList
  text : ∀ v, .text v ∈ segments → v ≠ ""
  /-- Only the last segment can be a text with an opening brace, which then is never closed. -/
  opening : ∀ before v after, segments = before ++ .text v :: after → '\x7b' ∈ v.toList →
    after = [] ∧ Unclosed v.toList
  adjacent : ∀ before v v' after, segments = before ++ .text v :: .text v' :: after →
    after = [] ∧ Unclosed v'.toList

theorem arranged_nil : Arranged [] where
  code := by simp
  text := by simp
  opening := by simp
  adjacent := by simp

theorem arranged_code_cons {c : String} {rest : List (Segment String)} :
    Arranged (.code c :: rest) ↔ Balanced c.toList ∧ Arranged rest := by
  constructor
  · intro h
    refine ⟨h.code c (by simp), ?_, ?_, ?_, ?_⟩
    · exact fun c' hc' => h.code c' (List.mem_cons_of_mem _ hc')
    · exact fun v hv => h.text v (List.mem_cons_of_mem _ hv)
    · rintro before v after rfl
      exact h.opening (.code c :: before) v after rfl
    · rintro before v v' after rfl
      exact h.adjacent (.code c :: before) v v' after rfl
  · rintro ⟨hc, h⟩
    refine ⟨?_, ?_, ?_, ?_⟩
    · intro c' hc'
      rcases List.mem_cons.mp hc' with heq | hrest
      · obtain rfl := Segment.code.inj heq
        exact hc
      · exact h.code c' hrest
    · intro v hv
      exact h.text v (by simpa using hv)
    · intro before v after hsegments
      cases before with
      | nil => simp at hsegments
      | cons first before => exact h.opening before v after (List.cons.inj hsegments).2
    · intro before v v' after hsegments
      cases before with
      | nil => simp at hsegments
      | cons first before => exact h.adjacent before v v' after (List.cons.inj hsegments).2

theorem arranged_text_cons {v : String} {rest : List (Segment String)} :
    Arranged (.text v :: rest) ↔ v ≠ "" ∧ ('\x7b' ∈ v.toList → rest = [] ∧ Unclosed v.toList) ∧
      (∀ v' after, rest = .text v' :: after → after = [] ∧ Unclosed v'.toList) ∧ Arranged rest := by
  constructor
  · intro h
    refine ⟨h.text v (by simp), h.opening [] v rest rfl, ?_, ?_, ?_, ?_, ?_⟩
    · rintro v' after rfl
      exact h.adjacent [] v v' after rfl
    · exact fun c hc => h.code c (List.mem_cons_of_mem _ hc)
    · exact fun v' hv' => h.text v' (List.mem_cons_of_mem _ hv')
    · rintro before v' after rfl
      exact h.opening (.text v :: before) v' after rfl
    · rintro before v' v'' after rfl
      exact h.adjacent (.text v :: before) v' v'' after rfl
  · rintro ⟨hne, hopen, hnext, h⟩
    refine ⟨?_, ?_, ?_, ?_⟩
    · intro c hc
      exact h.code c (by simpa using hc)
    · intro v' hv'
      rcases List.mem_cons.mp hv' with heq | hrest
      · obtain rfl := Segment.text.inj heq
        exact hne
      · exact h.text v' hrest
    · intro before v' after hsegments
      cases before with
      | nil =>
        obtain ⟨heq, rfl⟩ := List.cons.inj hsegments
        obtain rfl := Segment.text.inj heq
        exact hopen
      | cons first before => exact h.opening before v' after (List.cons.inj hsegments).2
    · intro before v' v'' after hsegments
      cases before with
      | nil => exact hnext v'' after (List.cons.inj hsegments).2
      | cons first before => exact h.adjacent before v' v'' after (List.cons.inj hsegments).2

/-! ## One character of a scan -/

theorem scan_literal_opened (seen rest : List Char) :
    scan (.literal seen) ('\x7b' :: rest) = literalSegment seen ++ scan (.code 0 []) rest := by
  rw [scan, if_pos rfl]

theorem scan_literal_other {c : Char} (hopen : c ≠ '\x7b') (seen rest : List Char) :
    scan (.literal seen) (c :: rest) = scan (.literal (c :: seen)) rest := by
  rw [scan, if_neg hopen]

theorem scan_code_opened (depth : Nat) (seen rest : List Char) :
    scan (.code depth seen) ('\x7b' :: rest) = scan (.code (depth + 1) ('\x7b' :: seen)) rest := by
  rw [scan.eq_def]
  simp

theorem scan_code_closed (depth : Nat) (seen rest : List Char) :
    scan (.code (depth + 1) seen) ('\x7d' :: rest) = scan (.code depth ('\x7d' :: seen)) rest := by
  rw [scan.eq_def]
  simp

theorem scan_code_ended (seen rest : List Char) :
    scan (.code 0 seen) ('\x7d' :: rest) =
      .code (String.ofList seen.reverse) :: scan (.literal []) rest := by
  rw [scan.eq_def]
  simp

theorem scan_code_other {c : Char} (hopen : c ≠ '\x7b') (hclose : c ≠ '\x7d') (depth : Nat)
    (seen rest : List Char) :
    scan (.code depth seen) (c :: rest) = scan (.code depth (c :: seen)) rest := by
  rw [scan.eq_def]
  simp [hopen, hclose]

/-! ## What a scan yields -/

namespace Position

def source : Position → List Char
  | .literal seen => seen.reverse
  | .code _ seen => '\x7b' :: seen.reverse

def Sound : Position → Prop
  | .literal seen => '\x7b' ∉ seen
  | .code depth seen =>
    Held 0 seen.reverse ∧ seen.reverse.count '\x7b' = seen.reverse.count '\x7d' + depth

end Position

namespace Position.Sound

variable {depth : Nat} {c : Char} {seen : List Char}

theorem opened (h : Sound (.code depth seen)) : Sound (.code (depth + 1) ('\x7b' :: seen)) := by
  obtain ⟨hheld, htotal⟩ := h
  simp only [Sound, List.reverse_cons]
  have hcount : (seen.reverse ++ ['\x7b']).count '\x7b' =
      (seen.reverse ++ ['\x7b']).count '\x7d' + (depth + 1) := by
    simp [List.count_append, htotal]
    omega
  exact ⟨hheld.concat (by omega), hcount⟩

theorem closed (h : Sound (.code (depth + 1) seen)) : Sound (.code depth ('\x7d' :: seen)) := by
  obtain ⟨hheld, htotal⟩ := h
  simp only [Sound, List.reverse_cons]
  have hcount : (seen.reverse ++ ['\x7d']).count '\x7b' =
      (seen.reverse ++ ['\x7d']).count '\x7d' + depth := by
    simp [List.count_append, htotal]
    omega
  exact ⟨hheld.concat (by omega), hcount⟩

theorem other (hopen : c ≠ '\x7b') (hclose : c ≠ '\x7d') (h : Sound (.code depth seen)) :
    Sound (.code depth (c :: seen)) := by
  obtain ⟨hheld, htotal⟩ := h
  simp only [Sound, List.reverse_cons]
  have hcount : (seen.reverse ++ [c]).count '\x7b' = (seen.reverse ++ [c]).count '\x7d' + depth := by
    simp [List.count_append, htotal, hopen, hclose]
  exact ⟨hheld.concat (by omega), hcount⟩

end Position.Sound

theorem source_literalSegment (seen : List Char) :
    (literalSegment seen).flatMap Segment.source = seen.reverse := by
  unfold literalSegment
  split
  · rename_i h
    simp [List.isEmpty_iff.mp h]
  · simp [Segment.source]

theorem source_scan (position : Position) (rest : List Char) :
    (scan position rest).flatMap Segment.source = position.source ++ rest := by
  fun_induction scan position rest with
  | case1 seen => simp [source_literalSegment, Position.source]
  | case2 seen rest ih => simp [source_literalSegment, ih, Position.source]
  | case3 seen c rest hc ih => simp [ih, Position.source]
  | case4 depth seen => simp [Segment.source, Position.source]
  | case5 depth seen rest ih => simp [ih, Position.source]
  | case6 seen rest hc ih => simp [Segment.source, ih, Position.source]
  | case7 seen rest hc depth ih => simp [ih, Position.source]
  | case8 depth seen c rest hc hc' ih => simp [ih, Position.source]

theorem scan_code_cases {depth : Nat} {seen : List Char} (h : Position.Sound (.code depth seen))
    (rest : List Char) :
    (∃ c after, scan (.code depth seen) rest = .code c :: after) ∨
      ∃ v, scan (.code depth seen) rest = [.text v] ∧ Unclosed v.toList := by
  induction rest generalizing depth seen with
  | nil =>
    refine .inr ⟨_, rfl, ?_⟩
    rw [String.toList_ofList]
    exact unclosed_cons h.1
  | cons c rest ih =>
    by_cases hopen : c = '\x7b'
    · subst hopen
      rw [scan_code_opened]
      exact ih h.opened
    · by_cases hclose : c = '\x7d'
      · subst hclose
        cases depth with
        | zero =>
          rw [scan_code_ended]
          exact .inl ⟨_, _, rfl⟩
        | succ depth =>
          rw [scan_code_closed]
          exact ih h.closed
      · rw [scan_code_other hopen hclose]
        exact ih (h.other hopen hclose)

theorem arranged_literal {seen : List Char} (h : '\x7b' ∉ seen) {after : List (Segment String)}
    (hafter : Arranged after)
    (hnext : ∀ v rest, after = .text v :: rest → rest = [] ∧ Unclosed v.toList) :
    Arranged (literalSegment seen ++ after) := by
  unfold literalSegment
  split
  · exact hafter
  · rename_i hseen
    rw [List.singleton_append, arranged_text_cons]
    refine ⟨?_, ?_, hnext, hafter⟩
    · simpa [String.ext_iff] using hseen
    · intro hopen
      simp [h] at hopen

theorem arranged_scan {position : Position} (h : position.Sound) (rest : List Char) :
    Arranged (scan position rest) := by
  induction position, rest using scan.induct with
  | case1 seen =>
    have hlast := arranged_literal h arranged_nil (by simp)
    rwa [List.append_nil] at hlast
  | case2 seen rest ih =>
    have hcode : Position.Sound (.code 0 []) := by simp [Position.Sound, Held]
    rw [scan_literal_opened]
    apply arranged_literal h (ih hcode)
    -- a text can follow only if the brace just read is never closed
    intro v after hv
    rcases scan_code_cases hcode rest with ⟨c, after', hc⟩ | ⟨v', hv', hunclosed⟩
    · simp [hc] at hv
    · obtain ⟨rfl, rfl⟩ : v' = v ∧ [] = after := by simpa [hv'] using hv
      exact ⟨rfl, hunclosed⟩
  | case3 seen c rest hc ih =>
    rw [scan_literal_other hc]
    apply ih
    simpa [Position.Sound, Ne.symm hc] using h
  | case4 depth seen =>
    unfold scan
    have hunclosed := unclosed_cons h.1
    rw [arranged_text_cons, String.toList_ofList]
    exact ⟨by simp [String.ext_iff], fun _ => ⟨rfl, hunclosed⟩, by simp, arranged_nil⟩
  | case5 depth seen rest ih =>
    rw [scan_code_opened]
    exact ih h.opened
  | case6 seen rest hc ih =>
    rw [scan_code_ended, arranged_code_cons, String.toList_ofList]
    refine ⟨⟨h.1, h.2⟩, ih ?_⟩
    simp [Position.Sound]
  | case7 seen rest depth hc ih =>
    rw [scan_code_closed]
    exact ih h.closed
  | case8 depth seen c rest hc hc' ih =>
    rw [scan_code_other hc hc']
    exact ih (h.other hc hc')

/-! ## What a scan makes of segments in their order -/

theorem scan_literal_append {v : List Char} (h : '\x7b' ∉ v) (seen rest : List Char) :
    scan (.literal seen) (v ++ rest) = scan (.literal (v.reverse ++ seen)) rest := by
  induction v generalizing seen with
  | nil => rfl
  | cons c v ih =>
    obtain ⟨hc, hv⟩ : '\x7b' ≠ c ∧ '\x7b' ∉ v := by simpa using h
    rw [List.cons_append, scan_literal_other (Ne.symm hc), ih hv]
    simp

theorem scan_code_append {depth : Nat} {cs : List Char} (h : Held depth cs) (seen rest : List Char) :
    ∃ inner, depth + cs.count '\x7b' = inner + cs.count '\x7d' ∧
      scan (.code depth seen) (cs ++ rest) = scan (.code inner (cs.reverse ++ seen)) rest := by
  induction cs generalizing depth seen with
  | nil => exact ⟨depth, by simp, rfl⟩
  | cons c cs ih =>
    rw [List.cons_append]
    by_cases hopen : c = '\x7b'
    · subst hopen
      obtain ⟨inner, hinner, hscan⟩ := ih h.opened ('\x7b' :: seen)
      refine ⟨inner, by simp; omega, ?_⟩
      rw [scan_code_opened, hscan]
      simp
    · by_cases hclose : c = '\x7d'
      · subst hclose
        obtain ⟨outer, rfl, hheld⟩ := h.closed
        obtain ⟨inner, hinner, hscan⟩ := ih hheld ('\x7d' :: seen)
        refine ⟨inner, by simp; omega, ?_⟩
        rw [scan_code_closed, hscan]
        simp
      · obtain ⟨inner, hinner, hscan⟩ := ih (h.other hopen hclose) (c :: seen)
        refine ⟨inner, by simpa [hopen, hclose] using hinner, ?_⟩
        rw [scan_code_other hopen hclose, hscan]
        simp

theorem scan_opening (seen rest : List Char) :
    scan (.literal seen) ('\x7b' :: rest) =
      literalSegment seen ++ scan (.literal []) ('\x7b' :: rest) := by
  rw [scan_literal_opened, scan_literal_opened]
  rfl

theorem scan_code {c : String} (h : Balanced c.toList) (rest : List Char) :
    scan (.literal []) (Segment.source (.code c) ++ rest) = .code c :: scan (.literal []) rest := by
  obtain ⟨inner, hinner, hscan⟩ := scan_code_append h.held [] ('\x7d' :: rest)
  have htotal := h.total_eq
  obtain rfl : inner = 0 := by omega
  have hsource : Segment.source (.code c) ++ rest = '\x7b' :: (c.toList ++ '\x7d' :: rest) := by
    simp [Segment.source]
  rw [hsource, scan_literal_opened, hscan, scan_code_ended]
  simp [literalSegment]

theorem scan_unclosed {v : String} (h : Unclosed v.toList) :
    scan (.literal []) v.toList = [.text v] := by
  obtain ⟨rest, hv, hheld⟩ := h.exists_cons
  obtain ⟨inner, -, hscan⟩ := scan_code_append hheld [] []
  rw [List.append_nil] at hscan
  rw [hv, scan_literal_opened, hscan]
  simp [scan, literalSegment, ← hv]

theorem source_after_text {v : String} {rest : List (Segment String)}
    (h : Arranged (.text v :: rest)) :
    rest = [] ∨ ∃ cs, rest.flatMap Segment.source = '\x7b' :: cs := by
  obtain ⟨-, -, hnext, -⟩ := arranged_text_cons.mp h
  cases rest with
  | nil => exact .inl rfl
  | cons first after =>
    right
    cases first with
    | code c => exact ⟨_, rfl⟩
    | text v' =>
      obtain ⟨rfl, hunclosed⟩ := hnext v' after rfl
      obtain ⟨cs, hcs, -⟩ := hunclosed.exists_cons
      exact ⟨cs, by simp [Segment.source, hcs]⟩

theorem scan_source {segments : List (Segment String)} (h : Arranged segments) :
    scan (.literal []) (segments.flatMap Segment.source) = segments := by
  induction segments with
  | nil => rfl
  | cons first rest ih =>
    rw [List.flatMap_cons]
    cases first with
    | code c =>
      obtain ⟨hc, hrest⟩ := arranged_code_cons.mp h
      rw [scan_code hc, ih hrest]
    | text v =>
      obtain ⟨hne, hopening, -, hrest⟩ := arranged_text_cons.mp h
      by_cases hopen : '\x7b' ∈ v.toList
      · obtain ⟨rfl, hunclosed⟩ := hopening hopen
        simpa [Segment.source] using scan_unclosed hunclosed
      · have hliteral : literalSegment v.toList.reverse = [.text v] := by
          have hchars : v.toList ≠ [] := by simpa using hne
          simp [literalSegment, hchars]
        rw [Segment.source, scan_literal_append hopen, List.append_nil]
        rcases source_after_text h with rfl | ⟨cs, hcs⟩
        · exact hliteral
        · rw [hcs, scan_opening, hliteral, ← hcs, ih hrest]
          rfl

/-- A text has one decomposition, and `split` finds it. Put one after another, with each code
between its braces, the segments are the text. No front of a code closes more braces than it opens,
and the whole code opens as many as it closes. No text is empty. Only the last segment can be a text
with an opening brace, and then it begins with one that is never closed: every front of it but the
empty one opens more braces than it closes. Two texts are neighbours only if the second one is such
a last segment. -/
theorem split_eq_iff (text : String) (segments : List (Segment String)) :
    split text = segments ↔
      segments.flatMap Segment.source = text.toList ∧ Arranged segments := by
  constructor
  · rintro rfl
    have hstart : Position.Sound (.literal []) := by simp [Position.Sound]
    exact ⟨source_scan (.literal []) text.toList, arranged_scan hstart text.toList⟩
  · rintro ⟨hsource, harranged⟩
    unfold split
    rw [← hsource, scan_source harranged]

end Template

end Runbook

import Runbook.Document.Build

/-!
# Documents by recursion on the tree of a markup text

Only what stands directly at the top or in a quote becomes a block, only what stands in a
container of inlines becomes an inline, and anything else disappears with all that is inside it.
The tree is the one whose events are the given stream.
-/

namespace Runbook

open Markup (Span Tag Leaf Node Event)

namespace Translation

/-! ## Raw text -/

def extent (nodes : List Node) : Option Span := do
  let start ← (nodes.map (·.span.start)).min?
  let stop ← (nodes.map (·.span.stop)).max?
  some ⟨start, stop⟩

def source (cs : List Char) (children : List Node) : String := sourceOf cs (extent children)

def byteSize : List Char → Nat
  | [] => 0
  | c :: rest => c.utf8Size + byteSize rest

/-- The span covers whole characters of the text, and these are the characters. -/
def Covers (cs : List Char) (span : Span) (piece : List Char) : Prop :=
  ∃ before after, cs = before ++ piece ++ after ∧ span.start = byteSize before ∧
    span.stop = byteSize before + byteSize piece

/-! ## Inlines -/

/-- Puts an inline before others; two texts in a row become one. -/
def joinText : Inline → List Inline → List Inline
  | .text a, .text b :: rest => .text (a ++ b) :: rest
  | i, rest => i :: rest

def joinTexts (row : List Inline) : List Inline := row.foldr joinText []

mutual

def inline (cs : List Char) : Node → List Inline
  | .leaf (.text v) _ => [.text v]
  | .leaf (.code v) _ => [.code v]
  | .leaf .lineBreak _ => [.lineBreak]
  | .branch .emphasis _ children =>
    [.emphasis (joinTexts (inlines cs children)) (source cs children)]
  | .branch .strong _ children => [.strong (joinTexts (inlines cs children)) (source cs children)]
  | .branch (.link url) _ children =>
    [.link url (joinTexts (inlines cs children)) (source cs children)]
  | _ => []

def inlines (cs : List Char) : List Node → List Inline
  | [] => []
  | n :: rest => inline cs n ++ inlines cs rest

end

/-! ## Items -/

/-- What a node is in an item. A paragraph gives its inlines, after a break if the item has begun.
-/
def itemPiece (cs : List Char) (begun : Bool) : Node → List Inline
  | .branch .paragraph _ children => (if begun then [.lineBreak] else []) ++ inlines cs children
  | n => inline cs n

def itemPieces (cs : List Char) (begun : Bool) : List Node → List Inline
  | [] => []
  | n :: rest =>
    let piece := itemPiece cs begun n
    piece ++ itemPieces cs (begun || !piece.isEmpty) rest

def item (cs : List Char) : Node → List (List Inline)
  | .branch .item _ children => [joinTexts (itemPieces cs false children)]
  | _ => []

/-! ## Blocks -/

mutual

def block (cs : List Char) : Node → List Block
  | .leaf .rule _ => [.thematicBreak]
  | .leaf .html _ => [.other]
  | .branch (.heading level) _ children => [.heading level (joinTexts (inlines cs children))]
  | .branch .paragraph _ children =>
    [.paragraph (joinTexts (inlines cs children)) (source cs children)]
  | .branch (.list ordered) _ children => [.list ordered (children.flatMap (item cs))]
  | .branch .quote _ children => [.quote (blocks cs children)]
  | .branch .other _ _ => [.other]
  | _ => []

def blocks (cs : List Char) : List Node → List Block
  | [] => []
  | n :: rest => block cs n ++ blocks cs rest

end

/-! ## Pieces of the text by their bytes -/

theorem byteSize_eq_zero_iff {cs : List Char} : byteSize cs = 0 ↔ cs = [] := by
  cases cs with
  | nil => simp [byteSize]
  | cons c cs =>
    have hpos := c.utf8Size_pos
    simp only [byteSize, reduceCtorEq, iff_false]
    omega

theorem exists_cons_of_byteSize {c : Char} {rest before after : List Char} {n : Nat}
    (hsplit : c :: rest = before ++ after) (hsize : byteSize before = n + 1) :
    ∃ tail, before = c :: tail ∧ rest = tail ++ after ∧ c.utf8Size + byteSize tail = n + 1 := by
  cases before with
  | nil => simp [byteSize] at hsize
  | cons first tail =>
    obtain ⟨rfl, hrest⟩ := List.cons.inj hsplit
    exact ⟨tail, rfl, hrest, hsize⟩

theorem dropBytes?_eq_some_iff {n : Nat} {cs after : List Char} :
    dropBytes? n cs = some after ↔ ∃ before, cs = before ++ after ∧ byteSize before = n := by
  fun_induction dropBytes? n cs with
  | case1 cs => simp [byteSize_eq_zero_iff]
  | case2 n => simp [byteSize]
  | case3 n c rest hc ih =>
    rw [ih]
    constructor
    · rintro ⟨before, rfl, hsize⟩
      exact ⟨c :: before, rfl, by rw [byteSize, hsize, Nat.add_sub_cancel' hc]⟩
    · rintro ⟨before, hsplit, hsize⟩
      obtain ⟨tail, -, hrest, htail⟩ := exists_cons_of_byteSize hsplit hsize
      exact ⟨tail, hrest, by omega⟩
  | case4 n c rest hc =>
    simp only [reduceCtorEq, false_iff, not_exists, not_and]
    intro before hsplit hsize
    obtain ⟨tail, -, -, htail⟩ := exists_cons_of_byteSize hsplit hsize
    omega

theorem takeBytes?_eq_some_iff {n : Nat} {cs piece : List Char} :
    takeBytes? n cs = some piece ↔ ∃ after, cs = piece ++ after ∧ byteSize piece = n := by
  fun_induction takeBytes? n cs generalizing piece with
  | case1 cs =>
    rw [Option.some.injEq]
    constructor
    · rintro rfl
      exact ⟨cs, rfl, rfl⟩
    · rintro ⟨after, -, hsize⟩
      exact (byteSize_eq_zero_iff.1 hsize).symm
  | case2 n =>
    simp only [reduceCtorEq, List.nil_eq, List.append_eq_nil_iff, false_iff]
    rintro ⟨after, ⟨rfl, -⟩, hsize⟩
    simp [byteSize] at hsize
  | case3 n c rest hc ih =>
    simp only [Option.map_eq_map, Option.map_eq_some_iff, ih]
    constructor
    · rintro ⟨piece, ⟨after, rfl, hsize⟩, rfl⟩
      exact ⟨after, rfl, by rw [byteSize, hsize, Nat.add_sub_cancel' hc]⟩
    · rintro ⟨after, hsplit, hsize⟩
      obtain ⟨tail, rfl, hrest, htail⟩ := exists_cons_of_byteSize hsplit hsize
      exact ⟨tail, ⟨after, hrest, by omega⟩, rfl⟩
  | case4 n c rest hc =>
    simp only [reduceCtorEq, false_iff, not_exists, not_and]
    intro after hsplit hsize
    obtain ⟨tail, -, -, htail⟩ := exists_cons_of_byteSize hsplit hsize
    omega

theorem slice?_eq_some_iff {cs piece : List Char} {span : Span} :
    slice? cs span = some piece ↔ Covers cs span piece := by
  unfold slice? Covers
  split
  · rename_i hback
    simp only [reduceCtorEq, false_iff]
    rintro ⟨before, after, -, hstart, hstop⟩
    omega
  · rename_i hspan
    simp only [Option.bind_eq_some_iff, dropBytes?_eq_some_iff, takeBytes?_eq_some_iff]
    constructor
    · rintro ⟨_, ⟨before, rfl, hstart⟩, after, rfl, hsize⟩
      exact ⟨before, after, by simp, hstart.symm, by omega⟩
    · rintro ⟨before, after, rfl, hstart, hstop⟩
      exact ⟨piece ++ after, ⟨before, by simp, hstart.symm⟩, after, rfl, by omega⟩

theorem source_of_covers {cs piece : List Char} {children : List Node} {span : Span}
    (hspan : extent children = some span) (h : Covers cs span piece) :
    source cs children = String.ofList (Text.trimChars piece) := by
  simp [source, sourceOf, hspan, slice?_eq_some_iff.2 h]

theorem source_of_not_covers {cs : List Char} {children : List Node}
    (h : ∀ span piece, extent children = some span → ¬Covers cs span piece) :
    source cs children = "" := by
  have hnone : (extent children).bind (slice? cs) = none := by
    rw [Option.bind_eq_none_iff]
    intro span hspan
    rw [Option.eq_none_iff_forall_ne_some]
    intro piece hpiece
    exact h span piece hspan (slice?_eq_some_iff.1 hpiece)
  simp [source, sourceOf, hnone]

/-! ## Joining texts as they come -/

theorem joinText_nil (i : Inline) : joinText i [] = [i] := by
  cases i <;> rfl

theorem joinText_of_ne {i : Inline} (h : ∀ a, i ≠ .text a) (row : List Inline) :
    joinText i row = i :: row := by
  unfold joinText
  split
  · rename_i a b rest
    exact absurd rfl (h a)
  · rfl

theorem joinText_cons_of_ne {first : Inline} (h : ∀ a, first ≠ .text a) (i : Inline)
    (row : List Inline) : joinText i (first :: row) = i :: first :: row := by
  unfold joinText
  split
  · rename_i a b rest heq
    exact absurd (List.cons.inj heq).1 (h b)
  · rfl

theorem joinText_joinText (a b : String) (row : List Inline) :
    joinText (.text a) (joinText (.text b) row) = joinText (.text (a ++ b)) row := by
  by_cases h : ∃ c rest, row = .text c :: rest
  · obtain ⟨c, rest, rfl⟩ := h
    simp [joinText, String.append_assoc]
  · cases row with
    | nil => rfl
    | cons first rest =>
      have hfirst : ∀ c, first ≠ .text c := by
        rintro c rfl
        exact h ⟨c, rest, rfl⟩
      rw [joinText_cons_of_ne hfirst, joinText_cons_of_ne hfirst]
      rfl

theorem appendInline_nil (k : Inline) : appendInline [] k = [k] := rfl

theorem appendInline_singleton (i k : Inline) : appendInline [i] k = joinText i [k] := by
  cases i <;> cases k <;> rfl

theorem appendInline_cons_cons (i first k : Inline) (row : List Inline) :
    appendInline (i :: first :: row) k = i :: appendInline (first :: row) k := by
  unfold appendInline
  rw [List.getLast?_cons_cons]
  split
  · simp
  · rfl

theorem appendInline_joinText (i k : Inline) (row : List Inline) :
    appendInline (joinText i row) k = joinText i (appendInline row k) := by
  cases row with
  | nil => rw [joinText_nil, appendInline_singleton, appendInline_nil]
  | cons first row =>
    by_cases hi : ∃ a, i = .text a
    · obtain ⟨a, rfl⟩ := hi
      by_cases hfirst : ∃ b, first = .text b
      · obtain ⟨b, rfl⟩ := hfirst
        change appendInline (.text (a ++ b) :: row) k = _
        cases row with
        | nil => rw [appendInline_singleton, appendInline_singleton, joinText_joinText]
        | cons second row =>
          rw [appendInline_cons_cons, appendInline_cons_cons]
          rfl
      · have hfirst : ∀ b, first ≠ .text b := fun b hb => hfirst ⟨b, hb⟩
        rw [joinText_cons_of_ne hfirst, appendInline_cons_cons]
        cases row with
        | nil =>
          rw [appendInline_singleton, joinText_of_ne hfirst, joinText_cons_of_ne hfirst]
        | cons second row => rw [appendInline_cons_cons, joinText_cons_of_ne hfirst]
    · have hi : ∀ a, i ≠ .text a := fun a ha => hi ⟨a, ha⟩
      rw [joinText_of_ne hi, joinText_of_ne hi, appendInline_cons_cons]

theorem appendInline_joinTexts (row : List Inline) (i : Inline) :
    appendInline (joinTexts row) i = joinTexts (row ++ [i]) := by
  induction row with
  | nil => exact (joinText_nil i).symm
  | cons first row ih =>
    change appendInline (joinText first (joinTexts row)) i = joinText first (joinTexts (row ++ [i]))
    rw [appendInline_joinText, ih]

theorem foldl_appendInline (row more : List Inline) :
    more.foldl appendInline (joinTexts row) = joinTexts (row ++ more) := by
  induction more generalizing row with
  | nil => simp
  | cons i more ih =>
    rw [List.foldl_cons, appendInline_joinTexts, ih]
    simp

theorem joinText_ne_nil (i : Inline) (row : List Inline) : joinText i row ≠ [] := by
  unfold joinText
  split <;> simp

theorem joinTexts_isEmpty (row : List Inline) : (joinTexts row).isEmpty = row.isEmpty := by
  cases row with
  | nil => rfl
  | cons first row => simpa [joinTexts] using joinText_ne_nil first _

theorem joinTexts_break (row more : List Inline) :
    joinTexts (row ++ .lineBreak :: more) = joinTexts row ++ .lineBreak :: joinTexts more := by
  induction row with
  | nil => rfl
  | cons first row ih =>
    change joinText first (joinTexts (row ++ .lineBreak :: more)) =
      joinText first (joinTexts row) ++ .lineBreak :: joinTexts more
    rw [ih]
    generalize joinTexts row = joined
    unfold joinText
    cases joined with
    | nil => cases first <;> rfl
    | cons second joined => cases first <;> cases second <;> rfl

end Translation

/-! ## Streams of events and their trees -/

namespace Markup

/-- Each container that starts stops again, after the ones that started inside it. -/
inductive WellNested : List Event → Prop where
  | nil : WellNested []
  | leaf (l : Leaf) (s : Span) {rest : List Event} (h : WellNested rest) :
    WellNested (.leaf l s :: rest)
  | branch (tag : Tag) (s : Span) {inner rest : List Event} (hinner : WellNested inner)
    (h : WellNested rest) : WellNested (.start tag s :: (inner ++ .stop :: rest))

theorem WellNested.exists_nodes {events : List Event} (h : WellNested events) :
    ∃ nodes, Node.eventsOf nodes = events := by
  induction h with
  | nil => exact ⟨[], rfl⟩
  | leaf l s _ ih =>
    obtain ⟨nodes, rfl⟩ := ih
    exact ⟨.leaf l s :: nodes, rfl⟩
  | branch tag s _ _ ihinner ih =>
    obtain ⟨children, rfl⟩ := ihinner
    obtain ⟨nodes, rfl⟩ := ih
    exact ⟨.branch tag s children :: nodes, by simp [Node.eventsOf, Node.events]⟩

theorem wellNested_eventsOf (nodes : List Node) : WellNested (Node.eventsOf nodes) := by
  cases nodes with
  | nil => exact .nil
  | cons n rest =>
    have hrest := wellNested_eventsOf rest
    cases n with
    | leaf l s => exact .leaf l s hrest
    | branch tag s children =>
      have h := WellNested.branch tag s (wellNested_eventsOf children) hrest
      simpa [Node.eventsOf, Node.events] using h

def AtEnd (events : List Event) : Prop := events = [] ∨ ∃ rest, events = .stop :: rest

theorem AtEnd.not_events {n : Node} {rest : List Event} : ¬AtEnd (n.events ++ rest) := by
  rintro (h | ⟨more, h⟩) <;> cases n <;> simp [Node.events] at h

mutual

theorem events_append_inj (n m : Node) {rest more : List Event}
    (h : n.events ++ rest = m.events ++ more) : n = m ∧ rest = more := by
  cases n with
  | leaf l s =>
    cases m with
    | leaf l' s' =>
      simp only [Node.events, List.cons_append, List.nil_append, List.cons.injEq,
        Event.leaf.injEq] at h
      obtain ⟨⟨rfl, rfl⟩, hrest⟩ := h
      exact ⟨rfl, hrest⟩
    | branch tag s' children => simp [Node.events] at h
  | branch tag s children =>
    cases m with
    | leaf l s' => simp [Node.events] at h
    | branch tag' s' children' =>
      simp only [Node.events, List.cons_append, List.append_assoc, List.nil_append,
        List.cons.injEq, Event.start.injEq] at h
      obtain ⟨⟨rfl, rfl⟩, hinner⟩ := h
      obtain ⟨rfl, hstop⟩ := eventsOf_append_inj children children' (.inr ⟨rest, rfl⟩)
        (.inr ⟨more, rfl⟩) hinner
      exact ⟨rfl, (List.cons.inj hstop).2⟩

theorem eventsOf_append_inj (ns ms : List Node) {rest more : List Event} (hrest : AtEnd rest)
    (hmore : AtEnd more) (h : Node.eventsOf ns ++ rest = Node.eventsOf ms ++ more) :
    ns = ms ∧ rest = more := by
  cases ns with
  | nil =>
    cases ms with
    | nil => exact ⟨rfl, h⟩
    | cons m ms =>
      simp only [Node.eventsOf, List.nil_append, List.append_assoc] at h
      exact absurd (h ▸ hrest) AtEnd.not_events
  | cons n ns =>
    cases ms with
    | nil =>
      simp only [Node.eventsOf, List.nil_append, List.append_assoc] at h
      exact absurd (h ▸ hmore) AtEnd.not_events
    | cons m ms =>
      simp only [Node.eventsOf, List.append_assoc] at h
      obtain ⟨rfl, htail⟩ := events_append_inj n m h
      obtain ⟨rfl, hrest⟩ := eventsOf_append_inj ns ms hrest hmore htail
      exact ⟨rfl, hrest⟩

end

theorem eventsOf_injective {ns ms : List Node} (h : Node.eventsOf ns = Node.eventsOf ms) :
    ns = ms := by
  have hend : AtEnd [] := .inl rfl
  exact (eventsOf_append_inj ns ms hend hend (by simpa using h)).1

end Markup

end Runbook

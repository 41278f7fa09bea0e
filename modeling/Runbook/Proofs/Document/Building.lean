import Runbook.Proofs.Document.Translation

/-!
# One pass over the events of a document

One pass over the events builds the document that the recursion over their tree describes. A
container takes up each of its children as the recursion says, whatever is open around it. Only
inside a container outside the language the two differ, and nothing of that is ever seen.
-/

namespace Runbook

open Markup (Span Tag Leaf Node Event WellNested)
open Translation (inlines itemPiece itemPieces block joinTexts extent source Covers)

variable {cs : List Char}

/-! ## What a container makes of a child -/

def giveItem (cs : List Char) (content : List Inline) : Node → List Inline
  | .branch .paragraph _ children =>
    (if content.isEmpty then content else content ++ [.lineBreak]) ++ joinTexts (inlines cs children)
  | n => (Translation.inline cs n).foldl appendInline content

def Filling.receive (cs : List Char) (f : Filling) (n : Node) : Filling :=
  match f with
  | .heading level content => .heading level ((Translation.inline cs n).foldl appendInline content)
  | .paragraph content => .paragraph ((Translation.inline cs n).foldl appendInline content)
  | .list ordered items => .list ordered (items ++ Translation.item cs n)
  | .item content => .item (giveItem cs content n)
  | .quote inside => .quote (inside ++ block cs n)
  | .emphasis content => .emphasis ((Translation.inline cs n).foldl appendInline content)
  | .strong content => .strong ((Translation.inline cs n).foldl appendInline content)
  | .link url content => .link url ((Translation.inline cs n).foldl appendInline content)
  | .ignored => .ignored

def Filling.filled (cs : List Char) (children : List Node) : Tag → Filling
  | .heading level => .heading level (joinTexts (inlines cs children))
  | .paragraph => .paragraph (joinTexts (inlines cs children))
  | .list ordered => .list ordered (children.flatMap (Translation.item cs))
  | .item => .item (joinTexts (itemPieces cs false children))
  | .quote => .quote (Translation.blocks cs children)
  | .emphasis => .emphasis (joinTexts (inlines cs children))
  | .strong => .strong (joinTexts (inlines cs children))
  | .link url => .link url (joinTexts (inlines cs children))
  | .other => .ignored

/-- The span of the children seen so far, with one more. -/
def widened : Option Span → Span → Option Span
  | none, s => some s
  | some t, s => some (t.hull s)

namespace Translation

theorem giveItem_joinTexts (row : List Inline) (n : Node) :
    giveItem cs (joinTexts row) n = joinTexts (row ++ itemPiece cs (!row.isEmpty) n) := by
  cases n with
  | leaf l s => exact foldl_appendInline row _
  | branch tag s children =>
    cases tag with
    | paragraph =>
      unfold giveItem itemPiece
      rw [joinTexts_isEmpty]
      cases row with
      | nil => rfl
      | cons first row => simpa using (joinTexts_break (first :: row) _).symm
    | _ => exact foldl_appendInline row _

theorem foldl_giveItem (row : List Inline) (children : List Node) :
    children.foldl (giveItem cs) (joinTexts row) =
      joinTexts (row ++ itemPieces cs (!row.isEmpty) children) := by
  induction children generalizing row with
  | nil => simp [itemPieces]
  | cons n rest ih =>
    rw [List.foldl_cons, giveItem_joinTexts, ih]
    cases row <;> simp [itemPieces]

theorem foldl_widened (s : Span) (nodes : List Node) :
    (nodes.map Node.span).foldl widened (some s) =
      some ⟨(nodes.map (·.span.start)).foldl min s.start,
        (nodes.map (·.span.stop)).foldl max s.stop⟩ := by
  induction nodes generalizing s with
  | nil => rfl
  | cons n rest ih => exact ih (s.hull n.span)

theorem foldl_widened_none (nodes : List Node) :
    (nodes.map Node.span).foldl widened none = extent nodes := by
  cases nodes with
  | nil => rfl
  | cons n rest => exact foldl_widened n.span rest

end Translation

namespace Filling

theorem foldl_receive_inlines {K : List Inline → Filling}
    (hK : ∀ content n, (K content).receive cs n =
      K ((Translation.inline cs n).foldl appendInline content))
    (children : List Node) :
    children.foldl (receive cs) (K []) = K (joinTexts (inlines cs children)) := by
  have hrow : ∀ row, children.foldl (receive cs) (K (joinTexts row)) =
      K (joinTexts (row ++ inlines cs children)) := by
    induction children with
    | nil => simp [inlines]
    | cons n rest ih =>
      intro row
      rw [List.foldl_cons, hK, Translation.foldl_appendInline, ih, inlines, List.append_assoc]
  exact hrow []

theorem foldl_receive_list (ordered : Bool) (items : List (List Inline)) (children : List Node) :
    children.foldl (receive cs) (.list ordered items) =
      .list ordered (items ++ children.flatMap (Translation.item cs)) := by
  induction children generalizing items with
  | nil => simp
  | cons n rest ih => simp [receive, ih]

theorem foldl_receive_quote (inside : List Block) (children : List Node) :
    children.foldl (receive cs) (.quote inside) =
      .quote (inside ++ Translation.blocks cs children) := by
  induction children generalizing inside with
  | nil => simp [Translation.blocks]
  | cons n rest ih => simp [receive, Translation.blocks, ih]

theorem foldl_receive_item (content : List Inline) (children : List Node) :
    children.foldl (receive cs) (.item content) = .item (children.foldl (giveItem cs) content) := by
  induction children generalizing content with
  | nil => rfl
  | cons n rest ih => exact ih _

theorem foldl_receive_ofTag {tag : Tag} (htag : tag ≠ .other) (children : List Node) :
    children.foldl (receive cs) (.ofTag tag) = filled cs children tag := by
  cases tag with
  | heading level => exact foldl_receive_inlines (fun _ _ => rfl) children
  | paragraph => exact foldl_receive_inlines (fun _ _ => rfl) children
  | list ordered => exact foldl_receive_list ordered [] children
  | item =>
    rw [ofTag, foldl_receive_item]
    exact congrArg _ (Translation.foldl_giveItem [] children)
  | quote => exact foldl_receive_quote [] children
  | emphasis => exact foldl_receive_inlines (fun _ _ => rfl) children
  | strong => exact foldl_receive_inlines (fun _ _ => rfl) children
  | link url => exact foldl_receive_inlines (fun _ _ => rfl) children
  | other => exact absurd rfl htag

end Filling

namespace Builder

def receive (cs : List Char) (b : Builder) (n : Node) : Builder :=
  match b.stack with
  | [] => { b with blocks := b.blocks ++ block cs n }
  | (f, span) :: rest => { b with stack := (f.receive cs n, widened span n.span) :: rest }

theorem foldl_receive_nil (done : List Block) (nodes : List Node) :
    nodes.foldl (receive cs) ⟨done, []⟩ = ⟨done ++ Translation.blocks cs nodes, []⟩ := by
  induction nodes generalizing done with
  | nil => simp [Translation.blocks]
  | cons n rest ih => simp [receive, Translation.blocks, ih]

theorem foldl_receive_cons (done : List Block) (f : Filling) (span : Option Span)
    (rest : List (Filling × Option Span)) (nodes : List Node) :
    nodes.foldl (receive cs) ⟨done, (f, span) :: rest⟩ =
      ⟨done, (nodes.foldl (Filling.receive cs) f,
        (nodes.map Node.span).foldl widened span) :: rest⟩ := by
  induction nodes generalizing f span with
  | nil => rfl
  | cons n more ih => exact ih _ _

theorem widen_cons (done : List Block) (f : Filling) (span : Option Span)
    (rest : List (Filling × Option Span)) (s : Span) :
    widen ⟨done, (f, span) :: rest⟩ s = ⟨done, (f, widened span s) :: rest⟩ := by
  cases span <;> rfl

/-! ## Each kind of child

A child comes to the builder as a block, as an inline, or as nothing. -/

section

variable (b : Builder) (n : Node)

theorem pushBlock_widen {new : Block} (hblock : block cs n = [new])
    (hinline : Translation.inline cs n = []) (hitem : Translation.item cs n = [])
    (hgive : ∀ content, giveItem cs content n = content) :
    (b.widen n.span).pushBlock new = b.receive cs n := by
  obtain ⟨done, stack⟩ := b
  cases stack with
  | nil => simp [widen, pushBlock, receive, hblock]
  | cons top rest =>
    obtain ⟨f, span⟩ := top
    rw [widen_cons]
    cases f <;> simp [pushBlock, receive, Filling.receive, hblock, hinline, hitem, hgive]

theorem pushInline_widen {i : Inline} (hblock : block cs n = [])
    (hinline : Translation.inline cs n = [i]) (hitem : Translation.item cs n = [])
    (hgive : ∀ content, giveItem cs content n = appendInline content i) :
    (b.widen n.span).pushInline i = b.receive cs n := by
  obtain ⟨done, stack⟩ := b
  cases stack with
  | nil => simp [widen, pushInline, receive, hblock]
  | cons top rest =>
    obtain ⟨f, span⟩ := top
    rw [widen_cons]
    cases f <;>
      simp [pushInline, Filling.pushInline, receive, Filling.receive, hblock, hinline, hitem, hgive]

theorem widen_eq_receive (hblock : block cs n = []) (hinline : Translation.inline cs n = [])
    (hitem : Translation.item cs n = []) (hgive : ∀ content, giveItem cs content n = content) :
    b.widen n.span = b.receive cs n := by
  obtain ⟨done, stack⟩ := b
  cases stack with
  | nil => simp [widen, receive, hblock]
  | cons top rest =>
    obtain ⟨f, span⟩ := top
    rw [widen_cons]
    cases f <;> simp [receive, Filling.receive, hblock, hinline, hitem, hgive]

theorem pushParagraph_widen (s : Span) (children : List Node) :
    (b.widen s).pushParagraph (joinTexts (inlines cs children)) (source cs children) =
      b.receive cs (.branch .paragraph s children) := by
  obtain ⟨done, stack⟩ := b
  cases stack with
  | nil => simp [widen, pushParagraph, pushBlock, receive, block]
  | cons top rest =>
    obtain ⟨f, span⟩ := top
    rw [widen_cons]
    cases f <;>
      simp [pushParagraph, pushBlock, receive, Filling.receive, block, Translation.inline,
        Translation.item, giveItem, Node.span]

theorem close_item_widen (s : Span) (children : List Node) (source : String) :
    (b.widen s).close (.item (joinTexts (itemPieces cs false children))) source =
      b.receive cs (.branch .item s children) := by
  obtain ⟨done, stack⟩ := b
  cases stack with
  | nil => simp [widen, close, receive, block]
  | cons top rest =>
    obtain ⟨f, span⟩ := top
    rw [widen_cons]
    cases f <;>
      simp [close, receive, Filling.receive, block, Translation.inline, Translation.item, giveItem,
        Node.span]

end

theorem step_leaf (b : Builder) (l : Leaf) (s : Span) :
    step cs b (.leaf l s) = b.receive cs (.leaf l s) := by
  cases l with
  | text v => exact pushInline_widen b (.leaf (.text v) s) rfl rfl rfl fun _ => rfl
  | code v => exact pushInline_widen b (.leaf (.code v) s) rfl rfl rfl fun _ => rfl
  | lineBreak => exact pushInline_widen b (.leaf .lineBreak s) rfl rfl rfl fun _ => rfl
  | rule => exact pushBlock_widen b (.leaf .rule s) rfl rfl rfl fun _ => rfl
  | html => exact pushBlock_widen b (.leaf .html s) rfl rfl rfl fun _ => rfl
  | inlineHtml => exact widen_eq_receive b (.leaf .inlineHtml s) rfl rfl rfl fun _ => rfl

theorem close_filled (b : Builder) {tag : Tag} (htag : tag ≠ .other) (s : Span)
    (children : List Node) :
    (b.widen s).close (.filled cs children tag) (source cs children) =
      b.receive cs (.branch tag s children) := by
  cases tag with
  | heading level =>
    exact pushBlock_widen b (.branch (.heading level) s children) rfl rfl rfl fun _ => rfl
  | paragraph => exact pushParagraph_widen b s children
  | list ordered =>
    exact pushBlock_widen b (.branch (.list ordered) s children) rfl rfl rfl fun _ => rfl
  | item => exact close_item_widen b s children _
  | quote => exact pushBlock_widen b (.branch .quote s children) rfl rfl rfl fun _ => rfl
  | emphasis => exact pushInline_widen b (.branch .emphasis s children) rfl rfl rfl fun _ => rfl
  | strong => exact pushInline_widen b (.branch .strong s children) rfl rfl rfl fun _ => rfl
  | link url => exact pushInline_widen b (.branch (.link url) s children) rfl rfl rfl fun _ => rfl
  | other => exact absurd rfl htag

/-! ## Inside a container outside the language -/

def run (cs : List Char) (b : Builder) (events : List Event) : Builder :=
  events.foldl (step cs) b

theorem run_append (b : Builder) (events more : List Event) :
    run cs b (events ++ more) = run cs (run cs b events) more := by
  simp [run]

/-- Only the innermost container has changed, and it has not come back into the language. -/
inductive Retouched : Builder → Builder → Prop where
  | top (done : List Block) (rest : List (Filling × Option Span)) {f f' : Filling}
    (span span' : Option Span) (h : f = .ignored → f' = .ignored) :
    Retouched ⟨done, (f, span) :: rest⟩ ⟨done, (f', span') :: rest⟩

section

variable (done : List Block) (f : Filling) (span : Option Span) (rest : List (Filling × Option Span))

theorem retouched_widen (s : Span) :
    Retouched ⟨done, (f, span) :: rest⟩ (widen ⟨done, (f, span) :: rest⟩ s) := by
  rw [widen_cons]
  exact .top done rest span _ id

theorem retouched_pushInline (i : Inline) :
    Retouched ⟨done, (f, span) :: rest⟩ (pushInline ⟨done, (f, span) :: rest⟩ i) := by
  apply Retouched.top
  rintro rfl
  rfl

theorem retouched_pushBlock (new : Block) :
    Retouched ⟨done, (f, span) :: rest⟩ (pushBlock ⟨done, (f, span) :: rest⟩ new) := by
  cases f <;> exact .top done rest span span (by simp)

theorem retouched_pushParagraph (content : List Inline) (source : String) :
    Retouched ⟨done, (f, span) :: rest⟩
      (pushParagraph ⟨done, (f, span) :: rest⟩ content source) := by
  cases f <;> exact .top done rest span span (by simp)

theorem retouched_close (closed : Filling) (source : String) :
    Retouched ⟨done, (f, span) :: rest⟩ (close ⟨done, (f, span) :: rest⟩ closed source) := by
  cases closed with
  | heading level content => exact retouched_pushBlock done f span rest _
  | paragraph content => exact retouched_pushParagraph done f span rest content source
  | list ordered items => exact retouched_pushBlock done f span rest _
  | item content => cases f <;> exact .top done rest span span (by simp)
  | quote inside => exact retouched_pushBlock done f span rest _
  | emphasis content => exact retouched_pushInline done f span rest _
  | strong content => exact retouched_pushInline done f span rest _
  | link url content => exact retouched_pushInline done f span rest _
  | ignored =>
    change Retouched _ (ite _ _ _)
    split
    · exact .top done rest span span id
    · exact retouched_pushBlock done f span rest _

end

/-- The builder is `depth` containers deep inside one outside the language. -/
def Hidden (done : List Block) (below : List (Filling × Option Span)) (depth : Nat) (b : Builder) :
    Prop :=
  ∃ above span, above.length = depth ∧ b = ⟨done, above ++ (.ignored, span) :: below⟩

section

variable {done : List Block} {below : List (Filling × Option Span)} {depth : Nat} {b b' : Builder}

theorem Hidden.exists_cons (h : Hidden done below depth b) :
    ∃ f span rest, b = ⟨done, (f, span) :: rest⟩ := by
  obtain ⟨above, span, -, rfl⟩ := h
  cases above with
  | nil => exact ⟨_, _, _, rfl⟩
  | cons top above => exact ⟨_, _, _, rfl⟩

theorem Hidden.of_retouched (h : Hidden done below depth b) (hb : Retouched b b') :
    Hidden done below depth b' := by
  obtain ⟨above, span, hdepth, rfl⟩ := h
  cases above with
  | nil =>
    cases hb with
    | top _ _ _ span' hf => exact ⟨[], span', hdepth, by rw [hf rfl]; rfl⟩
  | cons top above =>
    cases hb with
    | top _ _ _ span' hf => exact ⟨(_, span') :: above, span, hdepth, rfl⟩

theorem Hidden.start (cs : List Char) (h : Hidden done below depth b) (tag : Tag) (s : Span) :
    Hidden done below (depth + 1) (step cs b (.start tag s)) := by
  obtain ⟨f, span, rest, rfl⟩ := h.exists_cons
  obtain ⟨above, span', hdepth, heq⟩ := h.of_retouched (retouched_widen done f span rest s)
  refine ⟨(.ofTag tag, none) :: above, span', by simp [hdepth], ?_⟩
  simp [step, heq]

theorem Hidden.stop (cs : List Char) (h : Hidden done below (depth + 1) b) :
    Hidden done below depth (step cs b .stop) := by
  obtain ⟨above, span, hdepth, rfl⟩ := h
  cases above with
  | nil => simp at hdepth
  | cons top above =>
    have hrest : Hidden done below depth ⟨done, above ++ (.ignored, span) :: below⟩ :=
      ⟨above, span, by simpa using hdepth, rfl⟩
    obtain ⟨f, span', rest, heq⟩ := hrest.exists_cons
    have hclose := retouched_close done f span' rest top.1 (sourceOf cs top.2)
    rw [← heq] at hclose
    exact hrest.of_retouched hclose

theorem Hidden.leaf (cs : List Char) (h : Hidden done below depth b) (l : Leaf) (s : Span) :
    Hidden done below depth (step cs b (.leaf l s)) := by
  obtain ⟨f, span, rest, rfl⟩ := h.exists_cons
  rw [step_leaf]
  apply h.of_retouched
  apply Retouched.top
  rintro rfl
  rfl

end

mutual

theorem Hidden.run_events {done : List Block} {below : List (Filling × Option Span)} {depth : Nat}
    {b : Builder} (cs : List Char) (h : Hidden done below depth b) (n : Node) :
    Hidden done below depth (run cs b n.events) := by
  cases n with
  | leaf l s => exact h.leaf cs l s
  | branch tag s children =>
    rw [Node.events, ← List.singleton_append, run_append, run_append]
    exact ((h.start cs tag s).run_eventsOf cs children).stop cs

theorem Hidden.run_eventsOf {done : List Block} {below : List (Filling × Option Span)} {depth : Nat}
    {b : Builder} (cs : List Char) (h : Hidden done below depth b) (nodes : List Node) :
    Hidden done below depth (run cs b (Node.eventsOf nodes)) := by
  cases nodes with
  | nil => exact h
  | cons n rest =>
    rw [Node.eventsOf, run_append]
    exact (h.run_events cs n).run_eventsOf cs rest

end

/-! ## Whole streams -/

def Visible (b : Builder) : Prop := ∀ x ∈ b.stack, x.1 ≠ .ignored

theorem Visible.widen {b : Builder} (h : Visible b) (s : Span) : Visible (b.widen s) := by
  obtain ⟨done, stack⟩ := b
  cases stack with
  | nil => exact h
  | cons top rest =>
    obtain ⟨f, span⟩ := top
    rw [widen_cons]
    simpa [Visible] using h

theorem Visible.receive {b : Builder} (h : Visible b) (n : Node) : Visible (b.receive cs n) := by
  obtain ⟨done, stack⟩ := b
  cases stack with
  | nil => exact h
  | cons top rest =>
    obtain ⟨f, span⟩ := top
    simp only [Visible, List.forall_mem_cons] at h
    simp only [Visible, Builder.receive, List.forall_mem_cons]
    refine ⟨?_, h.2⟩
    cases f <;> simp_all [Filling.receive]

theorem close_ignored {b : Builder} (h : Visible b) (s : Span) (children : List Node)
    (source : String) :
    (b.widen s).close .ignored source = b.receive cs (.branch .other s children) := by
  change ite _ _ _ = _
  split
  · rename_i hany
    obtain ⟨x, hx, hignored⟩ := List.any_eq_true.1 hany
    have hx := h.widen s x hx
    split at hignored
    · contradiction
    · cases hignored
  · exact pushBlock_widen b (.branch .other s children) rfl rfl rfl fun _ => rfl

theorem run_branch (b : Builder) (tag : Tag) (s : Span) (children : List Node) :
    run cs b (Node.branch tag s children).events =
      step cs (run cs ⟨(b.widen s).blocks, (.ofTag tag, none) :: (b.widen s).stack⟩
        (Node.eventsOf children)) .stop := by
  rw [Node.events, ← List.singleton_append, run_append, run_append]
  rfl

theorem run_other {b : Builder} (h : Visible b) (s : Span) (children : List Node) :
    run cs b (Node.branch .other s children).events = b.receive cs (.branch .other s children) := by
  have hidden : Hidden (b.widen s).blocks (b.widen s).stack 0
      ⟨(b.widen s).blocks, (.ofTag .other, none) :: (b.widen s).stack⟩ := ⟨[], none, rfl, rfl⟩
  obtain ⟨above, span, hdepth, heq⟩ := hidden.run_eventsOf cs children
  rw [List.length_eq_zero_iff] at hdepth
  subst hdepth
  rw [run_branch, heq]
  exact close_ignored h s children (sourceOf cs span)

mutual

theorem run_events {b : Builder} (h : Visible b) (n : Node) :
    run cs b n.events = b.receive cs n := by
  cases n with
  | leaf l s => exact step_leaf b l s
  | branch tag s children =>
    by_cases htag : tag = .other
    · subst htag
      exact run_other h s children
    -- the new container is empty and in the language, so it receives all its children
    · have hvisible : Visible
          ⟨(b.widen s).blocks, (.ofTag tag, none) :: (b.widen s).stack⟩ := by
        refine List.forall_mem_cons.2 ⟨?_, h.widen s⟩
        cases tag <;> simp_all [Filling.ofTag]
      rw [run_branch, run_eventsOf hvisible children, foldl_receive_cons,
        Translation.foldl_widened_none, Filling.foldl_receive_ofTag htag]
      exact close_filled b htag s children

theorem run_eventsOf {b : Builder} (h : Visible b) (nodes : List Node) :
    run cs b (Node.eventsOf nodes) = nodes.foldl (receive cs) b := by
  cases nodes with
  | nil => rfl
  | cons n rest =>
    rw [Node.eventsOf, run_append, run_events h n]
    exact run_eventsOf (h.receive n) rest

end

end Builder

namespace Document

theorem ofEvents_eventsOf (cs : List Char) (nodes : List Node) :
    ofEvents cs (Node.eventsOf nodes) = ⟨Translation.blocks cs nodes⟩ := by
  have hempty : Builder.Visible ⟨[], []⟩ := by simp [Builder.Visible]
  have hrun : Builder.run cs ⟨[], []⟩ (Node.eventsOf nodes) = ⟨Translation.blocks cs nodes, []⟩ := by
    rw [Builder.run_eventsOf hempty, Builder.foldl_receive_nil, List.nil_append]
  exact congrArg (fun b => Document.mk b.blocks) hrun

/-- A well-nested stream has one tree, and the pass over the stream makes of it what the recursion
on the tree does. The raw text of a container is what its children cover, without the blanks around
it; it is empty where they cover no whole characters. -/
theorem ofEvents_eq_blocks (cs : List Char) {events : List Event} (h : WellNested events) :
    ∃ nodes, Node.eventsOf nodes = events ∧
      (∀ others, Node.eventsOf others = events → others = nodes) ∧
      ofEvents cs events = ⟨Translation.blocks cs nodes⟩ ∧
      ∀ children,
        (∀ span piece, extent children = some span → Covers cs span piece →
          source cs children = String.ofList (Text.trimChars piece)) ∧
        ((∀ span piece, extent children = some span → ¬Covers cs span piece) →
          source cs children = "") := by
  obtain ⟨nodes, rfl⟩ := h.exists_nodes
  refine ⟨nodes, rfl, fun others hsame => Markup.eventsOf_injective hsame,
    ofEvents_eventsOf cs nodes, fun children => ⟨?_, Translation.source_of_not_covers⟩⟩
  intro span piece hspan hcovers
  exact Translation.source_of_covers hspan hcovers

theorem ofEvents_eq_blocks_quote_list :
    ofEvents "> 2*3*4\n\n- a&amp;b\n\n  c![i](u)\n".toList
      [.start .quote ⟨2, 7⟩, .start .paragraph ⟨2, 7⟩, .leaf (.text "2") ⟨2, 3⟩,
        .start .emphasis ⟨3, 6⟩, .leaf (.text "3") ⟨4, 5⟩, .stop, .leaf (.text "4") ⟨6, 7⟩,
        .stop, .stop,
        .start (.list false) ⟨11, 30⟩, .start .item ⟨11, 30⟩,
        .start .paragraph ⟨11, 18⟩, .leaf (.text "a") ⟨11, 12⟩, .leaf (.text "&") ⟨12, 17⟩,
        .leaf (.text "b") ⟨17, 18⟩, .stop,
        .start .paragraph ⟨22, 30⟩, .leaf (.text "c") ⟨22, 23⟩, .start .other ⟨23, 30⟩,
        .leaf (.text "i") ⟨25, 26⟩, .stop, .stop, .stop, .stop] =
      ⟨[.quote [.paragraph [.text "2", .emphasis [.text "3"] "3", .text "4"] "2*3*4"],
        .list false [[.text "a&b", .lineBreak, .text "c"]]]⟩ := by
  have htree := Markup.wellNested_eventsOf
    [.branch .quote ⟨2, 7⟩ [.branch .paragraph ⟨2, 7⟩ [.leaf (.text "2") ⟨2, 3⟩,
        .branch .emphasis ⟨3, 6⟩ [.leaf (.text "3") ⟨4, 5⟩], .leaf (.text "4") ⟨6, 7⟩]],
      .branch (.list false) ⟨11, 30⟩ [.branch .item ⟨11, 30⟩
        [.branch .paragraph ⟨11, 18⟩ [.leaf (.text "a") ⟨11, 12⟩, .leaf (.text "&") ⟨12, 17⟩,
            .leaf (.text "b") ⟨17, 18⟩],
          .branch .paragraph ⟨22, 30⟩ [.leaf (.text "c") ⟨22, 23⟩,
            .branch .other ⟨23, 30⟩ [.leaf (.text "i") ⟨25, 26⟩]]]]]
  obtain ⟨nodes, -, hunique, hdocument, -⟩ :=
    ofEvents_eq_blocks "> 2*3*4\n\n- a&amp;b\n\n  c![i](u)\n".toList htree
  rw [← hunique _ rfl] at hdocument
  exact hdocument

end Document

end Runbook

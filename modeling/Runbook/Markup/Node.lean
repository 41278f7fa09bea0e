import Runbook.Markup.Glyph

/-!
# The structure of a document

A tree of nodes, and the same tree as a stream of events: a branch starts, its children follow,
and it stops.
-/

namespace Runbook.Markup

inductive Tag where
  | heading (level : Nat)
  | paragraph
  | list (ordered : Bool)
  | item
  | quote
  | emphasis
  | strong
  | link (url : String)
  /-- Code blocks, HTML blocks and images. -/
  | other
  deriving Repr, BEq, DecidableEq

inductive Leaf where
  | text (s : String)
  | code (s : String)
  | lineBreak
  | rule
  | html
  | inlineHtml
  deriving Repr, BEq, DecidableEq

inductive Node where
  | leaf (leaf : Leaf) (span : Span)
  | branch (tag : Tag) (span : Span) (children : List Node)

inductive Event where
  | start (tag : Tag) (span : Span)
  | stop
  | leaf (leaf : Leaf) (span : Span)
  deriving Repr, BEq, DecidableEq

namespace Node

def span : Node → Span
  | leaf _ s => s
  | branch _ s _ => s

mutual

/-- The events of a node: a branch encloses the events of its children. -/
def events : Node → List Event
  | leaf l s => [.leaf l s]
  | branch tag s children => .start tag s :: (eventsOf children ++ [.stop])

def eventsOf : List Node → List Event
  | [] => []
  | n :: rest => events n ++ eventsOf rest

end

def spanOf : List Node → Span
  | [] => default
  | [n] => n.span
  | n :: rest => n.span.hull (spanOf rest)

end Node

end Runbook.Markup

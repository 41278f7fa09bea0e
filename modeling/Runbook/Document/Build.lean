import Runbook.Document.Basic
import Runbook.Markup.Parse

/-!
# From markup to documents

The events of a document are read once, with a stack of the containers that are open; next to each
container stands the span of the events seen directly inside it, from which the raw text is cut
when the container closes.
-/

namespace Runbook

open Markup (Span Tag Event)

/-! ## Raw text -/

/-- Drops `n` bytes, unless they end inside a character or beyond the text. -/
def dropBytes? : Nat → List Char → Option (List Char)
  | 0, cs => some cs
  | _ + 1, [] => none
  | n + 1, c :: rest => if c.utf8Size ≤ n + 1 then dropBytes? (n + 1 - c.utf8Size) rest else none

def takeBytes? : Nat → List Char → Option (List Char)
  | 0, _ => some []
  | _ + 1, [] => none
  | n + 1, c :: rest =>
    if c.utf8Size ≤ n + 1 then (c :: ·) <$> takeBytes? (n + 1 - c.utf8Size) rest else none

def slice? (cs : List Char) (span : Span) : Option (List Char) :=
  if span.stop < span.start then none
  else (dropBytes? span.start cs).bind (takeBytes? (span.stop - span.start))

/-- The trimmed text on these bytes; empty where there are none. -/
def sourceOf (cs : List Char) (span : Option Span) : String :=
  String.ofList (((span.bind (slice? cs)).map Text.trimChars).getD [])

/-! ## Open containers -/

inductive Filling where
  | heading (level : Nat) (content : List Inline)
  | paragraph (content : List Inline)
  | list (ordered : Bool) (items : List (List Inline))
  | item (content : List Inline)
  | quote (blocks : List Block)
  | emphasis (content : List Inline)
  | strong (content : List Inline)
  | link (url : String) (content : List Inline)
  | ignored

def Filling.ofTag : Tag → Filling
  | .heading level => .heading level []
  | .paragraph => .paragraph []
  | .list ordered => .list ordered []
  | .item => .item []
  | .quote => .quote []
  | .emphasis => .emphasis []
  | .strong => .strong []
  | .link url => .link url []
  | .other => .ignored

/-- Appends an inline. Two texts in a row become one. -/
def appendInline (content : List Inline) (i : Inline) : List Inline :=
  match content.getLast?, i with
  | some (.text a), .text b => content.dropLast ++ [.text (a ++ b)]
  | _, i => content ++ [i]

def Filling.pushInline (i : Inline) : Filling → Filling
  | .heading level content => .heading level (appendInline content i)
  | .paragraph content => .paragraph (appendInline content i)
  | .item content => .item (appendInline content i)
  | .emphasis content => .emphasis (appendInline content i)
  | .strong content => .strong (appendInline content i)
  | .link url content => .link url (appendInline content i)
  | f => f

/-- The state of the reading: the finished blocks, and the open containers, innermost first, each
with the span of the events directly inside it. -/
structure Builder where
  blocks : List Block
  stack : List (Filling × Option Span)

namespace Builder

def pushInline (b : Builder) (i : Inline) : Builder :=
  match b.stack with
  | [] => b
  | (f, span) :: rest => { b with stack := (f.pushInline i, span) :: rest }

/-- Adds a block to the document or to a quote; inside anything else blocks are dropped. -/
def pushBlock (b : Builder) (block : Block) : Builder :=
  match b.stack with
  | [] => { b with blocks := b.blocks ++ [block] }
  | (.quote blocks, span) :: rest => { b with stack := (.quote (blocks ++ [block]), span) :: rest }
  | _ => b

/-- A paragraph inside an item gives its inlines to the item, after a break if there are others. -/
def pushParagraph (b : Builder) (content : List Inline) (source : String) : Builder :=
  match b.stack with
  | (.item before, span) :: rest =>
    let before := if before.isEmpty then before else before ++ [.lineBreak]
    { b with stack := (.item (before ++ content), span) :: rest }
  | _ => b.pushBlock (.paragraph content source)

def close (b : Builder) (f : Filling) (source : String) : Builder :=
  match f with
  | .heading level content => b.pushBlock (.heading level content)
  | .paragraph content => b.pushParagraph content source
  | .list ordered items => b.pushBlock (.list ordered items)
  | .item content =>
    match b.stack with
    | (.list ordered items, span) :: rest =>
      { b with stack := (.list ordered (items ++ [content]), span) :: rest }
    | _ => b
  | .quote blocks => b.pushBlock (.quote blocks)
  | .emphasis content => b.pushInline (.emphasis content source)
  | .strong content => b.pushInline (.strong content source)
  | .link url content => b.pushInline (.link url content source)
  | .ignored => if b.stack.any (·.1 matches .ignored) then b else b.pushBlock .other

def widen (b : Builder) (span : Span) : Builder :=
  match b.stack with
  | [] => b
  | (f, none) :: rest => { b with stack := (f, some span) :: rest }
  | (f, some s) :: rest => { b with stack := (f, some (s.hull span)) :: rest }

def step (cs : List Char) (b : Builder) : Event → Builder
  | .start tag span =>
    let b := b.widen span
    { b with stack := (.ofTag tag, none) :: b.stack }
  | .stop =>
    match b.stack with
    | [] => b
    | (f, span) :: rest => { b with stack := rest }.close f (sourceOf cs span)
  | .leaf leaf span =>
    let b := b.widen span
    match leaf with
    | .text v => b.pushInline (.text v)
    | .code v => b.pushInline (.code v)
    | .lineBreak => b.pushInline .lineBreak
    | .rule => b.pushBlock .thematicBreak
    | .html => b.pushBlock .other
    | .inlineHtml => b

end Builder

namespace Document

def ofEvents (cs : List Char) (events : List Event) : Document :=
  ⟨(events.foldl (Builder.step cs) ⟨[], []⟩).blocks⟩

def parse (text : String) : Document :=
  ofEvents text.toList (Markup.Node.eventsOf (Markup.parse text))

end Document

end Runbook

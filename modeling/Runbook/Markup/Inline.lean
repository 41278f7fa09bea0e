import Runbook.Markup.Emphasis
import Runbook.Markup.Html
import Runbook.Markup.Link

/-!
# The inside of paragraphs and headings

One pass over the glyphs finds escapes, references, code, HTML, line breaks and links; what is
left in each link and in the whole are texts and runs of emphasis marks, which `pairRuns` puts
together.
-/

namespace Runbook.Markup

open Text (isAsciiPunctuation)

/-- The destinations of the labels a document defines; the first definition counts. -/
abbrev Definitions := List (String × String)

structure Bracket where
  image : Bool
  /-- A link inside another link is not one, so finding a link disables the brackets around it. -/
  enabled : Bool
  start : Nat
  rest : List Glyph
  before : List Token

def Bracket.node (b : Bracket) : Node :=
  if b.image then .leaf (.text "![") ⟨b.start, b.start + 2⟩
  else .leaf (.text "[") ⟨b.start, b.start + 1⟩

/-- The state of the pass. Lists are kept last first. -/
structure Scan where
  brackets : List Bracket
  tokens : List Token
  pending : List Glyph
  /-- The character before, unless a line begins here. -/
  previous : Option Char

namespace Scan

def push (s : Scan) (t : Token) : Scan := { s with tokens := t :: s.tokens }

def flush (s : Scan) : Scan :=
  match span? s.pending.reverse with
  | none => s
  | some span =>
    { s with
      tokens := .node (.leaf (.text (text s.pending.reverse)) span) :: s.tokens
      pending := [] }

def add (s : Scan) (n : Node) : Scan := s.flush.push (.node n)

def unclosed (tokens : List Token) : List Bracket → List Token
  | [] => tokens
  | b :: rest => unclosed (tokens ++ .node b.node :: b.before) rest

def finish (s : Scan) : List Node :=
  let s := s.flush
  pairRuns (unclosed s.tokens s.brackets).reverse

end Scan

/-! ## Code -/

/-- The glyphs before the next run of exactly `n` backticks. `run` counts the backticks just
passed, which are the last of `seen`. -/
def codeContent (n : Nat) : Nat → List Glyph → List Glyph → Option (List Glyph)
  | run, seen, [] => if run = n then some (seen.drop n).reverse else none
  | run, seen, g :: rest =>
    if g.char = '`' then codeContent n (run + 1) (g :: seen) rest
    else if run = n then some (seen.drop n).reverse
    else codeContent n 0 (g :: seen) rest

/-- The text of a code span: line ends become spaces, and one space is dropped at each end if both
ends have one and something else stands between them. -/
def codeText (content : List Glyph) : String :=
  let cs := (chars content).map fun c => if c = '\n' then ' ' else c
  let framed := cs.head? = some ' ' && cs.getLast? = some ' ' && cs.any (· ≠ ' ')
  String.ofList (if framed then (cs.drop 1).dropLast else cs)

/-! ## Links -/

def linkAfter? (definitions : Definitions) (b : Bracket) (closing : Glyph) (rest : List Glyph) :
    Option (String × Nat) :=
  let cs := chars rest
  -- The label must reach exactly to the bracket that is being closed.
  let ownLabel := do
    let (label, n) ← label? (chars b.rest)
    let last ← (b.rest.drop (n - 1)).head?
    if last.start = closing.start then definitions.lookup label else none
  match linkTarget? cs with
  | some target => some target
  | none =>
    match cs with
    | '[' :: ']' :: _ => ownLabel.map (·, 2)
    | '[' :: inner =>
      match label? inner with
      | some (label, n) => (definitions.lookup label).map (·, n + 1)
      | none => ownLabel.map (·, 0)
    | _ => ownLabel.map (·, 0)

def closeBracket (definitions : Definitions) (s : Scan) (g : Glyph) (rest : List Glyph) :
    Scan × Nat :=
  match s.brackets with
  | [] => ({ s with pending := g :: s.pending }, 0)
  | b :: outer =>
    let s := s.flush
    let literal : Scan :=
      { s with
        brackets := outer
        tokens := s.tokens ++ .node b.node :: b.before
        pending := [g] }
    if !b.enabled then (literal, 0) else
    match linkAfter? definitions b g rest with
    | none => (literal, 0)
    | some (url, n) =>
      let stop := match (rest.take n).getLast? with
        | some last => last.stop
        | none => g.stop
      let tag := if b.image then Tag.other else .link url
      let node := Node.branch tag ⟨b.start, stop⟩ (pairRuns s.tokens.reverse)
      let outer :=
        if b.image then outer
        else outer.map fun o => { o with enabled := o.enabled && o.image }
      ({ s with brackets := outer, tokens := .node node :: b.before, pending := [] }, n)

/-! ## The pass -/

/-- Handles a line end: two or more blanks before it, like a backslash, only change which bytes
the break takes. -/
def breakLine (s : Scan) (g : Glyph) : Scan :=
  let blanks := s.pending.takeWhile (isIndent ·.char)
  let kept := { s with pending := s.pending.drop blanks.length }
  let start := if 2 ≤ blanks.length then (blanks.getLast?.getD g).start else g.start
  kept.add (.leaf .lineBreak ⟨start, g.stop⟩)

def scanGlyph (definitions : Definitions) (s : Scan) (g : Glyph) (rest : List Glyph) :
    Scan × Nat :=
  let literal : Scan := { s with pending := g :: s.pending }
  let spanOver (n : Nat) : Span := ⟨g.start, ((rest.take n).getLast?.getD g).stop⟩
  match g.char with
  | '\n' => (breakLine s g, 0)
  | '\\' =>
    match rest with
    | next :: _ =>
      if next.char = '\n' then (s.add (.leaf .lineBreak ⟨g.start, next.stop⟩), 1)
      else if isAsciiPunctuation next.char then ({ s with pending := next :: s.pending }, 1)
      else (literal, 0)
    | [] => (literal, 0)
  | '`' =>
    let more := runLength '`' rest
    match codeContent (more + 1) 0 [] (rest.drop more) with
    | some content =>
      let n := more + content.length + more + 1
      (s.add (.leaf (.code (codeText content)) (spanOver n)), n)
    | none => ({ s with pending := (rest.take more).reverse ++ g :: s.pending }, more)
  | '<' =>
    match autolink? (chars rest) with
    | some (url, n) =>
      let inner := Node.leaf (.text url) ⟨g.stop, (spanOver (n - 1)).stop⟩
      (s.add (.branch (.link url) (spanOver n) [inner]), n)
    | none =>
      match inlineHtml? (chars rest) with
      | some n => (s.add (.leaf .inlineHtml (spanOver n)), n)
      | none => (literal, 0)
  | '&' =>
    match entity? (chars (g :: rest)) with
    | some (t, n) => (s.add (.leaf (.text t) (spanOver (n - 1))), n - 1)
    | none => (literal, 0)
  | '!' =>
    match rest with
    | next :: after =>
      if next.char = '[' then
        let s := s.flush
        let bracket := ⟨true, true, g.start, after, s.tokens⟩
        ({ s with brackets := bracket :: s.brackets, tokens := [] }, 1)
      else (literal, 0)
    | [] => (literal, 0)
  | '[' =>
    let s := s.flush
    ({ s with brackets := ⟨false, true, g.start, rest, s.tokens⟩ :: s.brackets, tokens := [] }, 0)
  | ']' => closeBracket definitions s g rest
  | c =>
    if c = '*' || c = '_' then
      let more := runLength c rest
      let after := (rest.drop more).head?.map Glyph.char
      let opens := canOpen c s.previous after
      let closes := canClose c s.previous after
      if opens || closes then
        (s.flush.push (.run ⟨c, more + 1, more + 1, opens, closes, g.start⟩), more)
      else ({ s with pending := (rest.take more).reverse ++ g :: s.pending }, more)
    else (literal, 0)

def scanFrom (definitions : Definitions) : Nat → Scan → List Glyph → Scan
  | _, s, [] => s
  | skip, s, g :: rest =>
    let (s, skip) := match skip with
      | n + 1 => (s, n)
      | 0 => scanGlyph definitions s g rest
    let previous := if g.char = '\n' then none else some g.char
    scanFrom definitions skip { s with previous } rest

def inlineNodes (definitions : Definitions) (gs : List Glyph) : List Node :=
  (scanFrom definitions 0 ⟨[], [], [], none⟩ gs).finish

end Runbook.Markup

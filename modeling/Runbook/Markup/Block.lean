import Runbook.Markup.Html
import Runbook.Markup.Link

/-!
# The block structure of a document

The lines are read one after another against the containers that are open; a line may close some
of them, open others, and adds to or ends the block in which it stands. Paragraphs and headings
keep their glyphs for the later reading of their inside.
-/

namespace Runbook.Markup

inductive Block where
  | paragraph (content : List Glyph)
  | heading (level : Nat) (content : List Glyph)
  | rule (span : Span)
  | verbatim (span : Span)
  | quote (blocks : List Block)
  /-- In a tight list no blank line stands between items or between the blocks of an item. -/
  | list (ordered : Bool) (tight : Bool) (items : List (List Block))
  deriving Inhabited

/-! ## Reading the front of a line -/

/-- What is left of a line. A tab reaches to the next multiple of four columns, so a part of one may
be used up: `owed` are its columns not yet used, and `column` counts from the last tab. -/
structure Cursor where
  rest : List Glyph
  column : Nat
  owed : Nat

namespace Cursor

def ofLine (l : Line) : Cursor := ⟨l.content, 0, 0⟩

/-- Skips up to `n` columns of indentation and returns how many were missing. -/
def skipSpaces (n : Nat) (c : Cursor) : Nat × Cursor :=
  let paid := min c.owed n
  go (n - paid) c.column (c.owed - paid) c.rest
where
  go (n column owed : Nat) : List Glyph → Nat × Cursor
    | [] => (n, ⟨[], column, owed⟩)
    | g :: rest =>
      if n = 0 then (0, ⟨g :: rest, column, owed⟩)
      else if g.char = ' ' then go (n - 1) (column + 1) owed rest
      else if g.char = '\t' then
        let width := 4 - column % 4
        let used := min width n
        go (n - used) 0 (width - used) rest
      else (n, ⟨g :: rest, column, owed⟩)

def spaces? (n : Nat) (c : Cursor) : Option Cursor :=
  match c.skipSpaces n with
  | (0, c) => some c
  | _ => none

/-- Skips at most three columns; four make the line part of a code block. -/
def indent? (c : Cursor) : Option (Nat × Cursor) :=
  match c.skipSpaces 4 with
  | (0, _) => none
  | (missing, c) => some (4 - missing, c)

def advance (n : Nat) (c : Cursor) : Cursor := ⟨c.rest.drop n, c.column + n, 0⟩

def head? (c : Cursor) : Option Char := c.rest.head?.map Glyph.char

def quoteMark? (c : Cursor) : Option Cursor :=
  if c.head? = some '>' then
    let c := c.advance 1
    some ((c.spaces? 1).getD c)
  else none

end Cursor

/-! ## Lines that are blocks of their own -/

/-- Three or more of one of `*`, `-`, `_`, with nothing but blanks between and after them. -/
def isRule (gs : List Glyph) : Bool :=
  match gs with
  | [] => false
  | g :: _ =>
    (g.char = '*' || g.char = '-' || g.char = '_') &&
      gs.all (fun h => h.char = g.char || h.char = ' ' || h.char = '\t') &&
      3 ≤ (gs.filter (·.char = g.char)).length

def headingLevel? (gs : List Glyph) : Option Nat :=
  let level := runLength '#' gs
  if 1 ≤ level && level ≤ 6 && (gs.drop level).head?.all (isGap ·.char) then some level else none

/-- The content of such a heading: final spaces and then final `#`s after a space are dropped. -/
def headingContent (level : Nat) (gs : List Glyph) : List Glyph :=
  let text := (dropIndent (gs.drop level)).reverse.dropWhile (·.char = ' ')
  let closed := text.dropWhile (·.char = '#')
  (if closed.isEmpty then []
    else if closed.head?.any (·.char = ' ') then closed.dropWhile (·.char = ' ')
    else text).reverse

/-- The level of the heading that a line of `=` or `-` makes of the paragraph before it. -/
def underlineLevel? (gs : List Glyph) : Option Nat :=
  match gs with
  | [] => none
  | g :: _ =>
    if (g.char = '=' || g.char = '-') && blankRest (gs.drop (runLength g.char gs)) then
      some (if g.char = '=' then 1 else 2)
    else none

def fence? (gs : List Glyph) : Option (Char × Nat) :=
  match gs with
  | [] => none
  | g :: _ =>
    let n := runLength g.char gs
    if (g.char = '~' || (g.char = '`' && (gs.drop n).all (·.char ≠ '`'))) && 3 ≤ n then
      some (g.char, n)
    else none

def closesFence (mark : Char) (n : Nat) (gs : List Glyph) : Bool :=
  n ≤ runLength mark gs && (gs.drop (runLength mark gs)).all (·.char = ' ')

/-! ## List markers -/

structure Marker where
  kind : Char
  number : Nat
  width : Nat

def isOrderedMark (kind : Char) : Bool := kind = '.' || kind = ')'

def marker? (gs : List Glyph) : Option Marker :=
  match gs with
  | [] => none
  | g :: rest =>
    if g.char = '-' || g.char = '+' || g.char = '*' then
      if rest.head?.all (fun h => h.char = ' ' || h.char = '\t') then some ⟨g.char, 0, 1⟩ else none
    else
      let digits := gs.takeWhile (·.char.isDigit)
      match gs.drop digits.length with
      | [] => none
      | d :: after =>
        if 1 ≤ digits.length && digits.length ≤ 9 && isOrderedMark d.char &&
            after.head?.all (fun h => h.char = ' ' || h.char = '\t') then
          some ⟨d.char, Text.decimalValue (chars digits), digits.length + 1⟩
        else none

/-- Steps over a list marker indented by `outer` columns. Returns its kind, the column at which its
item's content begins, and what follows. -/
def Cursor.listMarker? (outer : Nat) (c : Cursor) : Option (Char × Nat × Cursor) := do
  let m ← marker? c.rest
  if isRule c.rest then none else
  let after := c.advance m.width
  let spaced := (after.skipSpaces 1).2
  let indent := outer + m.width + 1
  if blankRest spaced.rest then some (m.kind, indent, spaced)
  else
    match spaced.indent? with
    | some (more, inner) => some (m.kind, indent + more, inner)
    | none => some (m.kind, indent, spaced)

/-! ## Containers -/

inductive Container where
  | quote
  | list (kind : Char) (tight : Bool)
  | item (indent : Nat)

def Container.isItem : Container → Bool
  | item _ => true
  | _ => false

def Container.isList : Container → Bool
  | list _ _ => true
  | _ => false

/-- An open container with the blocks (of a list: the items) it holds so far, last first. -/
structure Open where
  container : Container
  blocks : List Block
  items : List (List Block)

def Open.of (c : Container) : Open := ⟨c, [], []⟩

/-- Matches a line against the open containers, outermost first. Returns how many it continues and
what is left of it. Blank lines continue items, and every line continues a list. -/
def matchContainers : List Container → Cursor → Nat × Cursor
  | [], c => (0, c)
  | .quote :: rest, c =>
    match (c.skipSpaces 3).2.quoteMark? with
    | some c =>
      let (n, c) := matchContainers rest c
      (n + 1, c)
    | none => (0, c)
  | .list _ _ :: rest, c =>
    let (n, c) := matchContainers rest c
    (n + 1, c)
  | .item indent :: rest, c =>
    match c.skipSpaces indent with
    | (missing, after) =>
      if missing = 0 || after.rest.isEmpty then
        let (n, c) := matchContainers rest after
        (n + 1, c)
      else (0, c)

/-- Whether a line that could continue a paragraph begins a block instead. `inside` tells whether it
continues all containers of the paragraph, `next` whether the line after it is blank. -/
def interruptsParagraph (inside : Bool) (nextBlank : Bool) (gs : List Glyph) : Bool :=
  gs.isEmpty || isRule gs || (headingLevel? gs).isSome || (fence? gs).isSome ||
    gs.head?.any (·.char = '>') ||
    (match marker? gs with
      | none => false
      | some m =>
        -- An empty item, or one that would not begin a numbering, does not interrupt.
        !inside ||
          ((!isOrderedMark m.kind || m.number = 1) &&
            !(blankRest (gs.drop m.width) && nextBlank))) ||
    (match gs with
      | [] => false
      | g :: rest => g.char = '<' && (htmlBlockEnd? (chars rest)).isSome)

/-! ## Link definitions -/

/-- A definition `[label]: destination "title"` at the front of a text: its label, destination, and
the number of glyphs up to its end, which is the end of a line. -/
def definition? (gs : List Glyph) : Option (String × String × Nat) :=
  match chars gs with
  | '[' :: cs => do
    let (label, n) ← label? cs
    if (cs.drop n).head? ≠ some ':' then none else
    let start := n + 1 + gapLength (cs.drop (n + 1))
    let (url, m) ← destination? 1 (cs.drop start)
    if m = 0 then none else
    let afterUrl := cs.drop (start + m)
    let blanks := (afterUrl.takeWhile isIndent).length
    let tail := afterUrl.drop blanks
    let bare := (label, url, 1 + start + m)
    let titled (skipped : Nat) : Option (String × String × Nat) := do
      let t ← title? (afterUrl.drop skipped)
      let rest := afterUrl.drop (skipped + t)
      let line := rest.takeWhile (· ≠ '\n')
      if line.all isIndent then some (label, url, 1 + start + m + skipped + t) else none
    match tail with
    | [] => some bare
    | '\n' :: _ => some ((titled (gapLength afterUrl)).getD bare)
    | _ => if blanks = 0 then none else titled blanks
  | _ => none

/-! ## The state of the reading -/

inductive Growing where
  | nothing
  | paragraph (lines : List Line)
  | fenced (mark : Char) (length indent : Nat) (span : Span)
  | indented (span : Span)
  | html (ending : HtmlEnd) (span : Span)

/-- The glyphs of lines with the line ends between them, less the blanks at the very end. -/
def joinLines : List Line → List Glyph
  | [] => []
  | [l] => dropIndentEnd l.content
  | l :: rest => l.content ++ l.ending :: joinLines rest

structure Reading where
  opens : List Open
  blocks : List Block
  growing : Growing
  /-- A blank line has been seen in the innermost container since its last block. -/
  blank : Bool
  /-- The innermost item has begun with a blank line and holds no block yet. -/
  emptyItem : Bool
  definitions : List (String × String)
  ahead : Nat

namespace Reading

def start : Reading := ⟨[], [], .nothing, false, false, [], 0⟩

def containers (r : Reading) : List Container := (r.opens.map Open.container).reverse

def add (r : Reading) (b : Block) : Reading :=
  match r.opens with
  | [] => { r with blocks := b :: r.blocks }
  | o :: rest => { r with opens := { o with blocks := b :: o.blocks } :: rest }

def pop (r : Reading) : Reading :=
  match r.opens with
  | [] => r
  | o :: rest =>
    let r := { r with opens := rest }
    match o.container with
    | .quote => r.add (.quote o.blocks.reverse)
    | .list kind tight =>
      let r := if tight then { r with emptyItem := false } else r
      r.add (.list (isOrderedMark kind) tight o.items.reverse)
    | .item _ =>
      match rest with
      | [] => r
      | l :: rest => { r with opens := { l with items := o.blocks.reverse :: l.items } :: rest }

def popMany : Nat → Reading → Reading
  | 0, r => r
  | n + 1, r => popMany n r.pop

def push (r : Reading) (c : Container) : Reading := { r with opens := Open.of c :: r.opens }

def settle (r : Reading) : Reading :=
  let done := { r with growing := .nothing }
  match r.growing with
  | .nothing => done
  | .paragraph lines => done.add (.paragraph (joinLines lines.reverse))
  | .fenced _ _ _ span => done.add (.verbatim span)
  | .indented span => done.add (.verbatim span)
  | .html _ span => done.add (.verbatim span)

/-! ## Lists -/

/-- An item may begin with one blank line; after two it is over. -/
def endEmptyItem (r : Reading) : Reading :=
  let ended := r.emptyItem && r.blank && r.opens.head?.any (·.container.isItem)
  let r := if ended then r.pop else r
  { r with emptyItem := false }

/-- Prepares for a block that belongs to no list that has just been continued: a list without an
open item ends, and a blank line before the block makes the list around it loose. -/
def endList (r : Reading) : Reading :=
  let r := r.endEmptyItem
  let r := if r.opens.head?.any (·.container.isList) then r.pop else r
  if r.blank then
    let opens := match r.opens with
      | o :: ⟨.list kind _, blocks, items⟩ :: rest =>
        o :: ⟨.list kind false, blocks, items⟩ :: rest
      | others => others
    { r with opens := opens, blank := false }
  else r

def beginItem (r : Reading) (kind : Char) (indent : Nat) : Reading :=
  let r := r.endEmptyItem
  let r :=
    match r.opens with
    | ⟨.list k tight, blocks, items⟩ :: rest =>
      if k = kind then
        { r with opens := ⟨.list k (tight && !r.blank), blocks, items⟩ :: rest, blank := false }
      else { (r.endList).push (.list kind true) with blank := false }
    | _ => { (r.endList).push (.list kind true) with blank := false }
  r.push (.item indent)

/-- Opens the containers whose marks begin the rest of a line. The last component tells whether the
line ended with a marker, which leaves nothing else to read. -/
def openContainers : Nat → Reading → Cursor → Reading × Cursor × Bool
  | 0, r, c => (r, c, false)
  | fuel + 1, r, c =>
    match c.indent? with
    | none => (r, c, false)
    | some (outer, inner) =>
      match inner.listMarker? outer with
      | some (kind, indent, after) =>
        let r := r.beginItem kind indent
        if blankRest after.rest then ({ r with emptyItem := true }, after, true)
        else openContainers fuel r after
      | none =>
        match inner.quoteMark? with
        | some after => openContainers fuel (r.endList.push .quote) after
        | none => (r, c, false)

/-! ## Lines -/

def blankLine (r : Reading) : Reading :=
  match r.opens with
  | [] => r
  | o :: rest =>
    match o.container with
    | .quote => r
    | .item _ =>
      if r.emptyItem then { r with opens := { o with container := .item 0 } :: rest, blank := true }
      else { r with blank := true }
    | .list _ _ => { r with blank := true }

def continuation? (containers : List Container) (line : Line) (following : List Line) :
    Option (List Glyph) :=
  let (n, c) := matchContainers containers (Cursor.ofLine line)
  let nextBlank := following.head?.all (blankRest ·.content)
  let interrupted := match c.indent? with
    | none => false
    | some (_, inner) => interruptsParagraph (n = containers.length) nextBlank inner.rest
  let content := dropIndent c.rest
  if interrupted || content.isEmpty then none else some content

def continuations (containers : List Container) : List Line → List Line
  | [] => []
  | line :: following =>
    match continuation? containers line following with
    | none => []
    | some content => { line with content } :: continuations containers following

def beginText (r : Reading) (first : Line) (following : List Line) : Reading :=
  match definition? (joinLines (first :: continuations r.containers following)) with
  | none => { r with growing := .paragraph [first] }
  | some (label, url, n) =>
    let taken := (joinLines (first :: continuations r.containers following)).take n
    { r with
      definitions := r.definitions ++ [(label, url)]
      ahead := (taken.filter (·.char = '\n')).length }

def lineSpan (line : Line) : Span :=
  (span? line.content).getD ⟨line.ending.start, line.ending.start⟩

def readLine (r : Reading) (line : Line) (following : List Line) : Reading :=
  let (n, c) := matchContainers r.containers (Cursor.ofLine line)
  let r := popMany (r.opens.length - n) r
  let (r, c, done) := openContainers (c.rest.length + 1) r c
  if done then r
  else if blankRest c.rest then r.blankLine
  else
    let r := r.endList
    let span := lineSpan line
    match c.indent? with
    | none => { r with growing := .indented span, blank := false }
    | some (indent, c) =>
      let gs := c.rest
      let html : Option HtmlEnd := match gs with
        | [] => none
        | g :: rest =>
          if g.char ≠ '<' then none
          else
            (htmlBlockEnd? (chars rest)).orElse fun _ =>
              if isLoneTag (chars rest) then some .blankLine else none
      match html with
      | some (.mark m) =>
        if containsMark m.toList (chars gs) then r.add (.verbatim span)
        else { r with growing := .html (.mark m) span }
      | some .blankLine => { r with growing := .html .blankLine span }
      | none =>
        if isRule gs then r.add (.rule span)
        else
          match headingLevel? gs with
          | some level => r.add (.heading level (headingContent level gs))
          | none =>
            match fence? gs with
            | some (mark, length) => { r with growing := .fenced mark length indent span }
            | none => r.beginText { line with content := gs } following

def step (r : Reading) (line : Line) (following : List Line) : Reading :=
  let (n, c) := matchContainers r.containers (Cursor.ofLine line)
  let inside := n = r.opens.length
  let otherwise := r.settle.readLine line following
  match r.growing with
  | .nothing => r.readLine line following
  | .paragraph lines =>
    let underline := if inside then (c.indent?).bind fun (_, inner) => underlineLevel? inner.rest
      else none
    match underline with
    | some level => { r with growing := .nothing }.add (.heading level (joinLines lines.reverse))
    | none =>
      match continuation? r.containers line following with
      | some content => { r with growing := .paragraph ({ line with content } :: lines) }
      | none => otherwise
  | .fenced mark length indent _ =>
    if !inside then otherwise
    else
      match (c.skipSpaces indent).2.skipSpaces (4 - indent) with
      | (0, _) => r
      | (_, inner) => if closesFence mark length inner.rest then r.settle else r
  | .indented _ =>
    if !inside then otherwise
    else
      match c.spaces? 4 with
      | some inner => { r with blank := blankRest inner.rest }
      | none => if (c.skipSpaces 4).2.rest.isEmpty then { r with blank := true } else otherwise
  | .html (.mark m) _ =>
    if !inside then otherwise
    else if containsMark m.toList (chars c.rest) then r.settle
    else r
  | .html .blankLine _ => if !inside || blankRest c.rest then otherwise else r

def run : Reading → List Line → Reading
  | r, [] => r
  | r, line :: following =>
    if r.ahead = 0 then run (r.step line following) following
    else run { r with ahead := r.ahead - 1 } following

end Reading

def blocksOf (text : String) : List Block × List (String × String) :=
  let r := (Reading.start.run (lines text)).settle
  let r := Reading.popMany r.opens.length r
  (r.blocks.reverse, r.definitions)

end Runbook.Markup

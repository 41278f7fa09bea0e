/-!
# Characters of a document with the bytes they stand on

Every later stage works on lists of glyphs, so a piece of the document knows where it came from
however the text around it was cut.
-/

namespace Runbook.Markup

/-- The bytes from `start` up to but not including `stop`. -/
structure Span where
  start : Nat
  stop : Nat
  deriving Repr, BEq, DecidableEq, Inhabited

def Span.hull (a b : Span) : Span := ⟨min a.start b.start, max a.stop b.stop⟩

/-- A character and the bytes it stands on. A line end is one glyph, `'\n'`, of one or two bytes. -/
structure Glyph where
  char : Char
  start : Nat
  stop : Nat
  deriving Inhabited

structure Line where
  content : List Glyph
  ending : Glyph

/-- Cuts a text that begins at byte `start` into lines at LF, CR and CRLF. -/
def linesFrom (start : Nat) : List Char → List Line
  | [] => []
  | '\r' :: '\n' :: rest => ⟨[], '\n', start, start + 2⟩ :: linesFrom (start + 2) rest
  | c :: rest =>
    let stop := start + c.utf8Size
    if c = '\n' || c = '\r' then ⟨[], '\n', start, stop⟩ :: linesFrom stop rest
    else
      match linesFrom stop rest with
      | [] => [⟨[⟨c, start, stop⟩], '\n', stop, stop⟩]
      | line :: lines => { line with content := ⟨c, start, stop⟩ :: line.content } :: lines

def lines (text : String) : List Line := linesFrom 0 text.toList

def chars (gs : List Glyph) : List Char := gs.map Glyph.char

def text (gs : List Glyph) : String := String.ofList (chars gs)

def span? : List Glyph → Option Span
  | [] => none
  | g :: rest => some ⟨g.start, ((g :: rest).getLast (by simp)).stop⟩

/-- Spaces and tabs, and the other two blanks that do not end a line. -/
def isIndent (c : Char) : Bool := c = ' ' || c = '\t' || c = '\x0b' || c = '\x0c'

def isGap (c : Char) : Bool := isIndent c || c = '\n' || c = '\r'

def dropIndent (gs : List Glyph) : List Glyph := gs.dropWhile (isIndent ·.char)

def dropIndentEnd (gs : List Glyph) : List Glyph :=
  (gs.reverse.dropWhile (isIndent ·.char)).reverse

def blankRest (gs : List Glyph) : Bool := gs.all (isIndent ·.char)

def runLength (c : Char) (gs : List Glyph) : Nat := (gs.takeWhile (·.char == c)).length

end Runbook.Markup

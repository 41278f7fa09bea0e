import Runbook.Text.Blank

/-!
# Documents

Documents as the language sees them: a few kinds of blocks, and inlines that keep the raw text
between their marks. Expressions are read from the raw text, because the rendered text has lost
the `*` that markup took for emphasis.
-/

namespace Runbook

inductive Inline where
  | text (v : String)
  | code (v : String)
  | emphasis (content : List Inline) (source : String)
  | strong (content : List Inline) (source : String)
  | link (url : String) (content : List Inline) (source : String)
  | lineBreak
  deriving Repr, Inhabited

inductive Block where
  | heading (level : Nat) (content : List Inline)
  | paragraph (content : List Inline) (source : String)
  /-- Each item is the inline content of one entry. -/
  | list (ordered : Bool) (items : List (List Inline))
  | quote (blocks : List Block)
  | thematicBreak
  /-- Code, HTML and anything else without a meaning in the language. -/
  | other
  deriving Repr, Inhabited

structure Document where
  blocks : List Block
  deriving Repr, Inhabited

namespace Inline

mutual

/-- The rendered text of an inline; a line end shows as a space. -/
def plain : Inline → String
  | text v => v
  | code v => v
  | emphasis content _ => plainText content
  | strong content _ => plainText content
  | link _ content _ => plainText content
  | lineBreak => " "

def plainText : List Inline → String
  | [] => ""
  | i :: rest => plain i ++ plainText rest

end

/-- The raw text if it was recorded, else the rendered text. -/
def sourceOr (source : String) (content : List Inline) : String :=
  if source.isEmpty then plainText content else source

def isBlank : Inline → Bool
  | text v => v.toList.all Text.isBlank
  | lineBreak => true
  | _ => false

def sole? (content : List Inline) : Option Inline :=
  match content.filter (!·.isBlank) with
  | [i] => some i
  | _ => none

mutual

def emphasized? : Inline → Option String
  | emphasis content source => some (sourceOr source content)
  | strong content _ => firstEmphasis? content
  | link _ content _ => firstEmphasis? content
  | _ => none

/-- The raw text of the first emphasis, looking also inside strong emphasis and links. -/
def firstEmphasis? : List Inline → Option String
  | [] => none
  | i :: rest =>
    match emphasized? i with
    | some s => some s
    | none => firstEmphasis? rest

end

/-! ## Inlines without a recorded source take their rendered text for it -/

def ofEmphasis (content : List Inline) : Inline := emphasis content (plainText content)

def ofStrong (content : List Inline) : Inline := strong content (plainText content)

def ofLink (url : String) (content : List Inline) : Inline := link url content (plainText content)

end Inline

def Block.ofParagraph (content : List Inline) : Block :=
  .paragraph content (Inline.plainText content)

end Runbook

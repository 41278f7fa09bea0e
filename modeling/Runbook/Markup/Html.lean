import Runbook.Markup.Glyph

/-!
# HTML inside documents

Tags and comments within a line, and the lines that begin HTML blocks.
-/

namespace Runbook.Markup

/-! ## Tags -/

def isAttributeStart (c : Char) : Bool := c.isAlpha || c = '_' || c = ':'

def isAttributeChar (c : Char) : Bool := isAttributeStart c || c.isDigit || c = '.' || c = '-'

def isBareValueChar (c : Char) : Bool := !"'\" =><`\n".contains c

def afterValue? : List Char → Option (List Char)
  | [] => none
  | c :: rest =>
    if c = '"' || c = '\'' then
      match rest.dropWhile (· ≠ c) with
      | [] => none
      | _ :: rest => some rest
    else if isBareValueChar c then some (rest.dropWhile isBareValueChar)
    else none

def afterAttribute? : List Char → Option (List Char)
  | [] => none
  | c :: rest =>
    if isAttributeStart c then
      let name := rest.dropWhile isAttributeChar
      match name.dropWhile isGap with
      | '=' :: value => afterValue? (value.dropWhile isGap)
      | _ => some name
    else none

/-- Skips attributes, each after a blank, up to the `/` or `>` that ends an opening tag. -/
def afterAttributes? : Nat → List Char → Option (List Char)
  | 0, _ => none
  | fuel + 1, cs =>
    let rest := cs.dropWhile isGap
    match rest with
    | [] => none
    | c :: _ =>
      if c = '/' || c = '>' then some rest
      else if rest.length = cs.length then none
      else (afterAttribute? rest).bind (afterAttributes? fuel)

def afterTag? (cs : List Char) : Option (List Char) :=
  let closing := cs.head? = some '/'
  let body := if closing then cs.drop 1 else cs
  if body.head?.any Char.isAlpha then do
    let name := body.dropWhile fun c => c.isAlphanum || c = '-'
    let attributes ← if closing then some name else afterAttributes? (name.length + 1) name
    let tail := attributes.dropWhile isGap
    match if !closing && tail.head? = some '/' then tail.drop 1 else tail with
    | '>' :: rest => some rest
    | _ => none
  else none

/-! ## Comments, instructions and declarations -/

def afterMark? (mark : List Char) : List Char → Option (List Char)
  | [] => none
  | c :: rest =>
    if mark.isPrefixOf (c :: rest) then some ((c :: rest).drop mark.length)
    else afterMark? mark rest

def afterHtml? : List Char → Option (List Char)
  | '!' :: '-' :: '-' :: rest =>
    if ">".toList.isPrefixOf rest then some (rest.drop 1)
    else if "->".toList.isPrefixOf rest then some (rest.drop 2)
    else afterMark? "-->".toList rest
  | '!' :: '[' :: 'C' :: 'D' :: 'A' :: 'T' :: 'A' :: '[' :: rest => afterMark? "]]>".toList rest
  | '!' :: c :: rest => if c.isAlpha then afterMark? ['>'] rest else none
  | '?' :: rest => afterMark? "?>".toList rest
  | cs => afterTag? cs

def inlineHtml? (cs : List Char) : Option Nat := (afterHtml? cs).map (cs.length - ·.length)

/-! ## Blocks -/

inductive HtmlEnd where
  | mark (m : String)
  | blankLine
  deriving Repr, BEq, DecidableEq

def containsMark (mark : List Char) (cs : List Char) : Bool :=
  mark.isPrefixOf cs || (afterMark? mark cs).isSome

/-- Elements whose content is kept as it is, up to their own closing tag. -/
def rawElements : List String := ["pre", "style", "script", "textarea"]

def blockElements : List String :=
  ["address", "article", "aside", "base", "basefont", "blockquote", "body", "caption", "center",
   "col", "colgroup", "dd", "details", "dialog", "dir", "div", "dl", "dt", "fieldset", "figcaption",
   "figure", "footer", "form", "frame", "frameset", "h1", "h2", "h3", "h4", "h5", "h6", "head",
   "header", "hr", "html", "iframe", "legend", "li", "link", "main", "menu", "menuitem", "nav",
   "noframes", "ol", "optgroup", "option", "p", "param", "search", "section", "summary", "table",
   "tbody", "td", "tfoot", "th", "thead", "title", "tr", "track", "ul"]

/-- The end of the block that begins with this text after its `<` and may interrupt a paragraph. -/
def htmlBlockEnd? (cs : List Char) : Option HtmlEnd :=
  let raw := (cs.takeWhile Char.isAlphanum).map Char.toLower
  let afterRaw := (cs.drop raw.length).head?
  if rawElements.contains (String.ofList raw) && (afterRaw.all fun c => isGap c || c = '>') then
    some (.mark ("</" ++ String.ofList raw ++ ">"))
  else
    match cs with
    | '!' :: '-' :: '-' :: _ => some (.mark "-->")
    | '?' :: _ => some (.mark "?>")
    | '!' :: '[' :: 'C' :: 'D' :: 'A' :: 'T' :: 'A' :: '[' :: _ => some (.mark "]]>")
    | '!' :: c :: _ => if c.isUpper then some (.mark ">") else none
    | _ =>
      let body := if cs.head? = some '/' then cs.drop 1 else cs
      let name := (body.takeWhile Char.isAlphanum).map Char.toLower
      let tail := body.drop name.length
      if blockElements.contains (String.ofList name) &&
          (tail.head?.all (fun c => c = ' ' || c = '\t' || c = '>') || "/>".toList.isPrefixOf tail)
      then some .blankLine
      else none

/-- Whether a single tag fills the line, given the text after its `<`. -/
def isLoneTag (cs : List Char) : Bool :=
  match afterTag? cs with
  | some rest => rest.all isIndent
  | none => false

end Runbook.Markup

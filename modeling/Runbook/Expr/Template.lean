import Runbook.Expr.Parser

/-!
# Templates: text with code between braces

Braces are counted, so code may hold braces itself. A closing brace without its opening one is
text, and so is everything from an opening brace that is never closed.
-/

namespace Runbook.Template

/-- Where a scan stands: in literal text, or in code with that many braces open inside it. Both
carry the characters since their beginning, the last first. -/
inductive Position where
  | literal (seen : List Char)
  | code (depth : Nat) (seen : List Char)

def literalSegment (seen : List Char) : List (Segment String) :=
  if seen.isEmpty then [] else [.text (String.ofList seen.reverse)]

def scan : Position → List Char → List (Segment String)
  | .literal seen, [] => literalSegment seen
  | .literal seen, c :: rest =>
    if c = '\x7b' then literalSegment seen ++ scan (.code 0 []) rest
    else scan (.literal (c :: seen)) rest
  | .code _ seen, [] => [.text (String.ofList ('\x7b' :: seen.reverse))]
  | .code depth seen, c :: rest =>
    if c = '\x7b' then scan (.code (depth + 1) (c :: seen)) rest
    else if c = '\x7d' then
      match depth with
      | 0 => .code (String.ofList seen.reverse) :: scan (.literal []) rest
      | depth + 1 => scan (.code depth (c :: seen)) rest
    else scan (.code depth (c :: seen)) rest

def split (text : String) : List (Segment String) := scan (.literal []) text.toList

def isCode : Segment String → Bool
  | .code _ => true
  | .text _ => false

def parseSegment : Segment String → Except SyntaxError (Segment Expr)
  | .text v => .ok (.text v)
  | .code source => do .ok (.code (← Expr.parse source))

/-- The expression that a printed text stands for. A single segment of code is that expression, so
its value keeps its kind; code among text is a template; text without code stands for itself, with
the blanks around it. -/
def parse (text : String) : Except SyntaxError Expr :=
  match split (Text.trim text) with
  | [.code source] => Expr.parse source
  | segments =>
    if segments.any isCode then do .ok (.template (← segments.mapM parseSegment))
    else .ok (.str text)

end Runbook.Template

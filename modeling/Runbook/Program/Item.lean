import Runbook.Document.Basic
import Runbook.Expr.Template
import Runbook.Program.Basic

/-!
# What each block of a document says in a program

Blocks that say nothing are no error; only the expressions inside a block can be malformed.
-/

namespace Runbook

inductive Item where
  | function (name : String)
  | params (names : List String)
  /-- Opens a guard, which holds what follows up to the next `leave`. -/
  | guard (test : Expr)
  | statement (s : Statement)
  /-- Ends the current call, and with it every open guard. -/
  | leave
  | nothing
  deriving Repr, Inhabited

namespace Item

/-- The text that a strong emphasis prints. Code is looked for in the raw text, where `*` is still
an operator; without any the rendered text is printed. -/
def printText (content : List Inline) (source : String) : String :=
  if source.contains '\x7b' then Text.oneLine source else Inline.plainText content

/-- The file and the function that a link points to: `#name` and `name` are in this program,
`file#name` is in another. -/
def target (url : String) : Option String × String :=
  let cs := url.toList
  let file := cs.takeWhile (· ≠ '#')
  match cs.dropWhile (· ≠ '#') with
  | [] => (none, url)
  | _ :: name => (if file.isEmpty then none else some (String.ofList file), String.ofList name)

def arguments (text : String) : Except SyntaxError (List Expr) :=
  if text.toList.all Text.isBlank then .ok []
  else (Text.splitOn ',' text.toList).mapM fun piece => Expr.parse (String.ofList piece)

def ofHeading (level : Nat) (content : List Inline) : Except SyntaxError Item :=
  match level with
  | 1 => .ok (function (Text.trim (Inline.plainText content)))
  | 2 =>
    let test := Text.oneLine ((Inline.firstEmphasis? content).getD "")
    if test.isEmpty then .ok nothing else do .ok (guard (← Expr.parse test))
  | _ => .ok nothing

/-- A paragraph that is a single strong emphasis prints, one that is a single link calls, and any
other may assign. -/
def ofParagraph (content : List Inline) (source : String) : Except SyntaxError Item :=
  match Inline.sole? content with
  | some (.strong content source) => do
    .ok (statement (.print (← Template.parse (printText content source))))
  | some (.link url content source) => do
    let args ← arguments (Text.oneLine (Inline.sourceOr source content))
    let (file, name) := target url
    .ok (statement (.call name file args))
  | _ =>
    match Assignment.parse? (Text.oneLine (Inline.sourceOr source content)) with
    | some a => do .ok (statement (.assign a.name a.op (← Expr.parse a.value)))
    | none => .ok nothing

def paragraphText? : Block → Option String
  | .paragraph content _ => some (Inline.plainText content)
  | _ => none

def ofQuote (blocks : List Block) : Item :=
  match variableName? ((blocks.findSome? paragraphText?).getD "") with
  | some name => statement (.ask name)
  | none => nothing

def paramNames (items : List (List Inline)) : List String :=
  (items.map fun item => Text.trim (Inline.plainText item)).filter (!·.isEmpty)

def ofBlock : Block → Except SyntaxError Item
  | .heading level content => ofHeading level content
  | .paragraph content source => ofParagraph content source
  | .list false items => .ok (params (paramNames items))
  | .list true _ => .ok nothing
  | .quote blocks => .ok (ofQuote blocks)
  | .thematicBreak => .ok leave
  | .other => .ok nothing

end Item

end Runbook

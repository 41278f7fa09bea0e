import Runbook.Expr.Basic
import Runbook.Number.Read
import Runbook.Text.Blank
import Runbook.Text.Identifier

/-!
# Reading expressions

Binary operators stand in six levels, each of which chains operands of the next level to the left;
then come the operators before an operand and the ones after it. Spaces, tabs and line ends may
stand between tokens. The reader never takes a step back: the first place where it cannot go on is
the place of the error.
-/

namespace Runbook

inductive Expected where
  | operand
  | memberName
  /-- Anything that goes on after an operand. The text may end there unless a bracket is open. -/
  | continuation (mayEnd : Bool)
  deriving Repr, BEq, DecidableEq

/-- A text that is no expression, without the blanks around it. -/
structure SyntaxError where
  text : String
  expected : Expected
  deriving Repr, BEq, DecidableEq

def Expected.names : Expected → String
  | operand => "unary_expr"
  | memberName => "identifier"
  | continuation mayEnd =>
    (if mayEnd then "EOI, " else "") ++
      "member_access, index_access, call_suffix, op_or, op_and, op_strict_eq, op_strict_ne, " ++
      "op_eq, op_ne, op_lte, op_gte, op_lt, op_gt, op_add, op_sub, op_mul, op_div, or op_mod"

def SyntaxError.message (e : SyntaxError) : String :=
  "syntax error in `" ++ e.text ++ "`: expected " ++ e.expected.names

namespace Expr

/-! ## Tokens -/

def isGap (c : Char) : Bool := c = ' ' || c = '\t' || c = '\r' || c = '\n'

def skipGap (cs : List Char) : List Char := cs.dropWhile isGap

def after? : List Char → List Char → Option (List Char)
  | [], cs => some cs
  | _ :: _, [] => none
  | t :: token, c :: cs => if t = c then after? token cs else none

/-- The operators of each level, the weakest level first. Of two operators that begin alike the
longer stands first. -/
def levels : List (List (String × BinaryOp)) :=
  [[("||", .or)],
   [("&&", .and)],
   [("===", .strictEq), ("!==", .strictNe), ("==", .eq), ("!=", .ne)],
   [("<=", .lte), (">=", .gte), ("<", .lt), (">", .gt)],
   [("+", .add), ("-", .sub)],
   [("*", .mul), ("/", .div), ("%", .mod)]]

def operator? : List (String × BinaryOp) → List Char → Option (BinaryOp × List Char)
  | [], _ => none
  | (token, op) :: ops, cs =>
    match after? token.toList cs with
    | some rest => some (op, rest)
    | none => operator? ops cs

def unaryOp? : Char → Option UnaryOp
  | '!' => some .not
  | '-' => some .neg
  | '+' => some .plus
  | _ => none

/-- The exponent part at the front of a text, and what follows it. Without a digit there is none. -/
def exponentLexeme (cs : List Char) : List Char × List Char :=
  match cs with
  | e :: rest =>
    if e = 'e' || e = 'E' then
      let (mark, digits) : List Char × List Char := match rest with
        | s :: more => if s = '+' || s = '-' then ([e, s], more) else ([e], rest)
        | [] => ([e], [])
      if (digits.takeWhile Char.isDigit).isEmpty then ([], cs)
      else (mark ++ digits.takeWhile Char.isDigit, digits.dropWhile Char.isDigit)
    else ([], cs)
  | [] => ([], [])

/-- The fraction at the front of a text, and what follows it. A point without a digit is none. -/
def fractionLexeme (cs : List Char) : List Char × List Char :=
  match cs with
  | '.' :: rest =>
    if (rest.takeWhile Char.isDigit).isEmpty then ([], cs)
    else ('.' :: rest.takeWhile Char.isDigit, rest.dropWhile Char.isDigit)
  | _ => ([], cs)

def numberLexeme? (cs : List Char) : Option (List Char × List Char) :=
  let whole := cs.takeWhile Char.isDigit
  let (fraction, tail) := fractionLexeme (cs.dropWhile Char.isDigit)
  if whole.isEmpty && fraction.isEmpty then none
  else
    let (exponent, rest) := exponentLexeme tail
    some (whole ++ fraction ++ exponent, rest)

def escaped : Char → Char
  | 'n' => '\n'
  | 't' => '\t'
  | 'r' => '\r'
  | '0' => '\x00'
  | c => c

def stringBody? (quote : Char) : List Char → Option (List Char × List Char)
  | [] => none
  | ['\\'] => none
  | '\\' :: c :: rest =>
    (stringBody? quote rest).map fun (body, after) => (escaped c :: body, after)
  | c :: rest =>
    if c = quote then some ([], rest)
    else (stringBody? quote rest).map fun (body, after) => (c :: body, after)

def atom? (cs : List Char) : Option (Expr × List Char) :=
  match numberLexeme? cs with
  | some (lexeme, rest) => (Number.decimal? lexeme).map fun v => (num v, rest)
  | none =>
    match cs with
    | [] => none
    | c :: body =>
      if c = '"' || c = '\'' then
        (stringBody? c body).map fun (content, rest) => (str (String.ofList content), rest)
      else
        (Text.identifier? cs).map fun (name, rest) =>
          if name = "true".toList then (bool true, rest)
          else if name = "false".toList then (bool false, rest)
          else (var (String.ofList name), rest)

/-! ## Expressions -/

mutual

def binaryFrom : Nat → List (List (String × BinaryOp)) → List Char →
    Except Expected (Expr × List Char)
  | 0, _, _ => .error .operand
  | fuel + 1, [], cs => prefixed fuel cs
  | fuel + 1, ops :: tighter, cs => do
    let (left, rest) ← binaryFrom fuel tighter cs
    chain fuel ops tighter left rest

/-- The operators of one level and their right operands, joined to the left. -/
def chain : Nat → List (String × BinaryOp) → List (List (String × BinaryOp)) → Expr → List Char →
    Except Expected (Expr × List Char)
  | 0, _, _, _, _ => .error .operand
  | fuel + 1, ops, tighter, left, cs =>
    match operator? ops (skipGap cs) with
    | none => .ok (left, cs)
    | some (op, rest) => do
      let (right, rest) ← binaryFrom fuel tighter (skipGap rest)
      chain fuel ops tighter (binary op left right) rest

def prefixed : Nat → List Char → Except Expected (Expr × List Char)
  | 0, _ => .error .operand
  | _ + 1, [] => .error .operand
  | fuel + 1, c :: cs =>
    match unaryOp? c with
    | some op => do
      let (operand, rest) ← prefixed fuel (skipGap cs)
      .ok (unary op operand, rest)
    | none => do
      let (operand, rest) ← primary fuel (c :: cs)
      suffixed fuel operand rest

def primary : Nat → List Char → Except Expected (Expr × List Char)
  | 0, _ => .error .operand
  | fuel + 1, cs =>
    match cs with
    | '(' :: inner => do
      let (e, rest) ← binaryFrom fuel levels (skipGap inner)
      match skipGap rest with
      | ')' :: rest => .ok (e, rest)
      | _ => .error (.continuation false)
    | _ =>
      match atom? cs with
      | some read => .ok read
      | none => .error .operand

def suffixed : Nat → Expr → List Char → Except Expected (Expr × List Char)
  | 0, _, _ => .error .operand
  | fuel + 1, object, cs =>
    match skipGap cs with
    | '.' :: rest =>
      match Text.identifier? (skipGap rest) with
      | some (name, rest) => suffixed fuel (member object (String.ofList name)) rest
      | none => .error .memberName
    | '[' :: rest => do
      let (key, rest) ← binaryFrom fuel levels (skipGap rest)
      match skipGap rest with
      | ']' :: rest => suffixed fuel (index object key) rest
      | _ => .error (.continuation false)
    | '(' :: rest => do
      let (args, rest) ← arguments fuel (skipGap rest)
      suffixed fuel (call object args) rest
    | _ => .ok (object, cs)

def arguments : Nat → List Char → Except Expected (List Expr × List Char)
  | 0, _ => .error .operand
  | fuel + 1, cs =>
    match cs with
    | ')' :: rest => .ok ([], rest)
    | _ => argumentRow fuel cs

def argumentRow : Nat → List Char → Except Expected (List Expr × List Char)
  | 0, _ => .error .operand
  | fuel + 1, cs => do
    let (arg, rest) ← binaryFrom fuel levels cs
    match skipGap rest with
    | ',' :: rest => do
      let (args, rest) ← argumentRow fuel (skipGap rest)
      .ok (arg :: args, rest)
    | ')' :: rest => .ok ([arg], rest)
    | _ => .error (.continuation false)

end

/-- Enough steps to read any expression of that many characters: between two characters the reader
goes through each level at most once. -/
def fuelFor (length : Nat) : Nat := 16 * (length + 1)

def parseChars (cs : List Char) : Except Expected Expr := do
  let (e, rest) ← binaryFrom (fuelFor cs.length) levels cs
  match skipGap rest with
  | [] => .ok e
  | _ => .error (.continuation true)

def parse (text : String) : Except SyntaxError Expr :=
  let cs := Text.trimChars text.toList
  match parseChars cs with
  | .ok e => .ok e
  | .error expected => .error ⟨String.ofList cs, expected⟩

end Expr

end Runbook

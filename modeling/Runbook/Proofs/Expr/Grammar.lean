import Runbook.Expr.Parser

/-!
# The grammar of expressions

Rules that say which texts derive which tree. No rule comes before another, nothing is longest,
and the text of a phrase may be cut anywhere: what the reader commits to is not part of it.
-/

namespace Runbook

/-! ## Operators -/

def BinaryOp.symbol : BinaryOp → String
  | or => "||"
  | and => "&&"
  | eq => "=="
  | ne => "!="
  | strictEq => "==="
  | strictNe => "!=="
  | lt => "<"
  | lte => "<="
  | gt => ">"
  | gte => ">="
  | add => "+"
  | sub => "-"
  | mul => "*"
  | div => "/"
  | mod => "%"

def BinaryOp.rank : BinaryOp → Nat
  | or => 0
  | and => 1
  | eq | ne | strictEq | strictNe => 2
  | lt | lte | gt | gte => 3
  | add | sub => 4
  | mul | div | mod => 5

def UnaryOp.symbol : UnaryOp → Char
  | not => '!'
  | neg => '-'
  | plus => '+'

namespace Grammar

def Gap (g : List Char) : Prop := ∀ c ∈ g, c ∈ [' ', '\t', '\r', '\n']

/-! ## Literals -/

def Digits (ds : List Char) : Prop := ∀ c ∈ ds, c.isDigit = true

structure Exponent where
  mark : Char
  sign : Option Char
  digits : List Char
  mark_mem : mark ∈ ['e', 'E']
  sign_mem : ∀ c ∈ sign, c ∈ ['+', '-']
  digits_ne_nil : digits ≠ []
  digits_digits : Digits digits

namespace Exponent

def text (x : Exponent) : List Char := x.mark :: x.sign.toList ++ x.digits

def value (x : Exponent) : Int :=
  if x.sign = some '-' then -(Text.decimalValue x.digits : Int) else Text.decimalValue x.digits

end Exponent

/-- A number: digits, a point with digits after it, or both, and perhaps an exponent part. -/
structure Numeral where
  whole : List Char
  fraction : List Char
  exponent : Option Exponent
  whole_digits : Digits whole
  fraction_digits : Digits fraction
  ne_nil : whole ≠ [] ∨ fraction ≠ []

namespace Numeral

def fractionText (n : Numeral) : List Char := if n.fraction = [] then [] else '.' :: n.fraction

def exponentText (n : Numeral) : List Char := (n.exponent.map Exponent.text).getD []

def text (n : Numeral) : List Char := n.whole ++ n.fractionText ++ n.exponentText

def value (n : Numeral) : Float :=
  Number.Literal.value ⟨n.whole, n.fraction, (n.exponent.map Exponent.value).getD 0⟩

end Numeral

inductive Piece where
  | plain (c : Char)
  | escape (c : Char)

namespace Piece

def text : Piece → List Char
  | plain c => [c]
  | escape c => ['\\', c]

def char : Piece → Char
  | plain c => c
  | escape c => Expr.escaped c

/-- Between two such quotes neither the quote nor a backslash stands for itself. -/
def Fits (quote : Char) : Piece → Prop
  | plain c => c ≠ quote ∧ c ≠ '\\'
  | escape _ => True

end Piece

/-! ## Phrases -/

inductive Phrase where
  /-- An expression of that rank: its operators bind at least so tightly. -/
  | level (rank : Nat) (e : Expr)
  | prefixed (e : Expr)
  | suffixed (e : Expr)
  | primary (e : Expr)
  | arguments (es : List Expr)

/-- The text is written as the phrase says. -/
inductive Derives : Phrase → List Char → Prop where
  | prefixed {e : Expr} {s : List Char} (h : Derives (.prefixed e) s) : Derives (.level 6 e) s
  | tighter {rank : Nat} {e : Expr} {s : List Char} (hrank : rank < 6)
    (h : Derives (.level (rank + 1) e) s) : Derives (.level rank e) s
  /-- Operators of one rank are joined to the left. -/
  | binary {op : BinaryOp} {l r : Expr} {s g h t : List Char} (hl : Derives (.level op.rank l) s)
    (hg : Gap g) (hh : Gap h) (hr : Derives (.level (op.rank + 1) r) t) :
    Derives (.level op.rank (.binary op l r)) (s ++ g ++ op.symbol.toList ++ h ++ t)
  | unary {op : UnaryOp} {e : Expr} {g s : List Char} (hg : Gap g) (h : Derives (.prefixed e) s) :
    Derives (.prefixed (.unary op e)) (op.symbol :: g ++ s)
  | suffixed {e : Expr} {s : List Char} (h : Derives (.suffixed e) s) : Derives (.prefixed e) s
  | primary {e : Expr} {s : List Char} (h : Derives (.primary e) s) : Derives (.suffixed e) s
  | member {e : Expr} {s g h name : List Char} (he : Derives (.suffixed e) s) (hg : Gap g)
    (hh : Gap h) (hname : Text.isIdentifier name = true) :
    Derives (.suffixed (.member e (String.ofList name))) (s ++ g ++ '.' :: h ++ name)
  | index {e key : Expr} {s g h t k : List Char} (he : Derives (.suffixed e) s) (hg : Gap g)
    (hh : Gap h) (hkey : Derives (.level 0 key) t) (hk : Gap k) :
    Derives (.suffixed (.index e key)) (s ++ g ++ '[' :: h ++ t ++ k ++ [']'])
  | call {e : Expr} {args : List Expr} {s g h t k : List Char} (he : Derives (.suffixed e) s)
    (hg : Gap g) (hh : Gap h) (hargs : Derives (.arguments args) t) (hk : Gap k) :
    Derives (.suffixed (.call e args)) (s ++ g ++ '(' :: h ++ t ++ k ++ [')'])
  | callNone {e : Expr} {s g h : List Char} (he : Derives (.suffixed e) s) (hg : Gap g)
    (hh : Gap h) : Derives (.suffixed (.call e [])) (s ++ g ++ '(' :: h ++ [')'])
  | argument {e : Expr} {s : List Char} (h : Derives (.level 0 e) s) : Derives (.arguments [e]) s
  | arguments {e : Expr} {es : List Expr} {s g h t : List Char} (he : Derives (.level 0 e) s)
    (hg : Gap g) (hh : Gap h) (hes : Derives (.arguments es) t) :
    Derives (.arguments (e :: es)) (s ++ g ++ ',' :: h ++ t)
  | number (n : Numeral) : Derives (.primary (.num n.value)) n.text
  | text {quote : Char} {pieces : List Piece} (hquote : quote ∈ ['"', '\''])
    (hpieces : ∀ piece ∈ pieces, piece.Fits quote) :
    Derives (.primary (.str (String.ofList (pieces.map Piece.char))))
      (quote :: pieces.flatMap Piece.text ++ [quote])
  | true : Derives (.primary (.bool true)) "true".toList
  | false : Derives (.primary (.bool false)) "false".toList
  | var {name : List Char} (hname : Text.isIdentifier name = true) (htrue : name ≠ "true".toList)
    (hfalse : name ≠ "false".toList) : Derives (.primary (.var (String.ofList name))) name
  | parenthesised {e : Expr} {g s h : List Char} (hg : Gap g) (he : Derives (.level 0 e) s)
    (hh : Gap h) : Derives (.primary e) ('(' :: g ++ s ++ h ++ [')'])

theorem Derives.level {e : Expr} {s : List Char} (h : Derives (.prefixed e) s) {rank : Nat}
    (hrank : rank ≤ 6) : Derives (.level rank e) s := by
  induction hn : 6 - rank generalizing rank with
  | zero =>
    obtain rfl : rank = 6 := by omega
    exact .prefixed h
  | succ n ih => exact .tighter (by omega) (ih (by omega) (by omega))

def Expresses (s : List Char) (e : Expr) : Prop := Derives (.level 0 e) s

end Grammar

end Runbook

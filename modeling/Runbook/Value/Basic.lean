import Runbook.Number.Layout
import Runbook.Number.Read
import Runbook.Text.Blank

/-!
# The values a program computes with

Operators convert their operands: `+` joins texts as soon as one side is a text, `==` compares
texts with numbers by value, and everything else works on numbers.
-/

namespace Runbook

inductive Value where
  /-- What a variable holds before anything was stored in it. -/
  | undefined
  | null
  | bool (v : Bool)
  | num (v : Float)
  | str (v : String)
  deriving Repr, Inhabited

namespace Number

/-- Numbers shown to a reader: whole numbers have all their digits, powers of ten from `-6` up to
`20` need no exponent part, and zero has no sign. -/
def plain : Layout where
  least := -6
  bound := 21
  wholeMark := ""
  plus := "+"
  tie := .up
  exactWhole := true
  signedZero := false
  nan := "NaN"
  infinity := "Infinity"

/-- The value of the digits after `0x`, which may have a `+` before them and denote a number of at
most 64 bits. -/
def hex? (cs : List Char) : Option Float :=
  let digits := match cs with
    | '+' :: rest => rest
    | _ => cs
  if digits.isEmpty || !digits.all Text.isHexDigit then none
  else
    let n := Text.hexValue digits
    if n < Nat.pow 2 64 then some (nearest n 0) else none

/-- The number a text stands for. Blanks around it do not count, an empty text is zero, and a text
that is no number gives NaN. -/
def ofText (s : String) : Float :=
  let cs := Text.trimChars s.toList
  if cs.isEmpty then 0
  else if cs = "Infinity".toList || cs = "+Infinity".toList then infinity
  else if cs = "-Infinity".toList then -infinity
  else
    match cs with
    | '0' :: 'x' :: rest => (hex? rest).getD nan
    | '0' :: 'X' :: rest => (hex? rest).getD nan
    | _ => (decimal? cs).getD nan

def compare (a b : Float) : Option Ordering :=
  if a < b then some .lt
  else if a == b then some .eq
  else if b < a then some .gt
  else none

end Number

namespace Value

def isTruthy : Value → Bool
  | undefined => false
  | null => false
  | bool v => v
  | num v => !(v == 0) && v == v
  | str v => !v.isEmpty

def isNullish : Value → Bool
  | undefined => true
  | null => true
  | _ => false

def toNumber : Value → Float
  | undefined => Number.nan
  | null => 0
  | bool v => if v then 1 else 0
  | num v => v
  | str v => Number.ofText v

def display : Value → String
  | undefined => "undefined"
  | null => "null"
  | bool v => if v then "true" else "false"
  | num v => Number.plain.write v
  | str v => v

def strictEq : Value → Value → Bool
  | undefined, undefined => true
  | null, null => true
  | bool a, bool b => a == b
  | num a, num b => a == b
  | str a, str b => a == b
  | _, _ => false

def boolAsNumber : Value → Value
  | bool v => num (toNumber (bool v))
  | v => v

/-- Equality with conversion. The nullish values equal each other and nothing else; else truth
values count as numbers, and a number equals a text that stands for it. -/
def looseEq (a b : Value) : Bool :=
  if a.isNullish || b.isNullish then a.isNullish && b.isNullish
  else
    match a.boolAsNumber, b.boolAsNumber with
    | num x, str y => x == Number.ofText y
    | str x, num y => Number.ofText x == y
    | x, y => x.strictEq y

/-- Two texts compare by their characters, anything else as numbers. -/
def compare (a b : Value) : Option Ordering :=
  match a, b with
  | str x, str y => some (Ord.compare x y)
  | _, _ => Number.compare a.toNumber b.toNumber

def isStr : Value → Bool
  | str _ => true
  | _ => false

/-- Joins the texts of two values if one of them is a text, and adds them as numbers otherwise. -/
def add (a b : Value) : Value :=
  if a.isStr || b.isStr then str (a.display ++ b.display) else num (a.toNumber + b.toNumber)

def length? : Value → Option Nat
  | str v => some v.length
  | _ => none

def charAt (v index : Value) : Value :=
  match v with
  | str s =>
    match Number.toNat? index.toNumber with
    | some n =>
      match s.toList[n]? with
      | some c => str (String.ofList [c])
      | none => undefined
    | none => undefined
  | _ => undefined

end Value

end Runbook

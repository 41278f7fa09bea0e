import Runbook.Number.Parts
import Runbook.Text.Digits

/-!
# Reading numbers

Every reader rounds the exact decimal once, to the nearest binary number.
-/

namespace Runbook.Number

def nearest (coefficient : Nat) (exponent : Int) : Float :=
  Float.ofScientific coefficient (exponent < 0) exponent.natAbs

def sign : List Char → Bool × List Char
  | '-' :: rest => (true, rest)
  | '+' :: rest => (false, rest)
  | cs => (false, cs)

/-- A decimal literal taken apart: its digits before and after the point, and its exponent. -/
structure Literal where
  whole : List Char
  fraction : List Char
  exponent : Int

def Literal.value (l : Literal) : Float :=
  nearest (Text.decimalValue (l.whole ++ l.fraction)) (l.exponent - l.fraction.length)

def exponentPart? : List Char → Option Int
  | [] => some 0
  | c :: rest =>
    if c = 'e' || c = 'E' then
      let (negative, digits) := sign rest
      if digits.isEmpty || !digits.all Char.isDigit then none
      else
        let n : Int := Text.decimalValue digits
        some (if negative then -n else n)
    else none

/-- A text that is an unsigned decimal: digits, some of them maybe after a point, and an
exponent. -/
def literal? (cs : List Char) : Option Literal :=
  let whole := cs.takeWhile Char.isDigit
  let rest := cs.dropWhile Char.isDigit
  let (fraction, tail) := match rest with
    | '.' :: after => (after.takeWhile Char.isDigit, after.dropWhile Char.isDigit)
    | _ => ([], rest)
  if whole.isEmpty && fraction.isEmpty then none
  else (exponentPart? tail).map (⟨whole, fraction, ·⟩)

def decimal? (cs : List Char) : Option Float :=
  let (negative, digits) := sign cs
  (literal? digits).map fun l => if negative then -l.value else l.value

end Runbook.Number

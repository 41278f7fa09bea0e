import Runbook.Number.Parts

/-!
# The fewest decimal digits that read back as a given binary number

A decimal reads back as the number if it lies between the midpoints to the number's two
neighbours; the midpoints themselves count if the mantissa is even, because reading rounds halves
to the even mantissa.
-/

namespace Runbook.Number

structure Decimal where
  coefficient : Nat
  exponent : Int
  deriving Repr, BEq, DecidableEq

/-- Which of two equally near decimals is taken. -/
inductive Tie where
  | up
  | toEven
  deriving Repr, BEq, DecidableEq

structure Ratio where
  num : Nat
  den : Nat

def Ratio.ofBinary (mantissa : Nat) (exponent : Int) : Ratio :=
  ⟨mantissa * Nat.pow 2 exponent.toNat, Nat.pow 2 (-exponent).toNat⟩

def Ratio.shift (r : Ratio) (e : Int) : Ratio :=
  ⟨r.num * Nat.pow 10 (-e).toNat, r.den * Nat.pow 10 e.toNat⟩

def digitCount (n : Nat) : Nat := (Nat.toDigits 10 n).length

/-- The position of the decimal point before the first digit: `10 ^ (p - 1) ≤ r < 10 ^ p`. -/
def Ratio.point (r : Ratio) : Int :=
  if r.den ≤ r.num then digitCount (r.num / r.den) else 1 - digitCount (r.den / r.num)

/-- The numbers that read back as `mantissa * 2 ^ exponent`, in units of `2 ^ (exponent - 2)`. Below
the least mantissa of a binade the neighbour is only half as far. -/
def readsBack (mantissa : Nat) (exponent : Int) (d : Ratio) : Bool :=
  let down := if mantissa = Nat.pow 2 52 && -1074 < exponent then 1 else 2
  let low := Ratio.ofBinary (4 * mantissa - down) (exponent - 2)
  let high := Ratio.ofBinary (4 * mantissa + 2) (exponent - 2)
  if mantissa % 2 = 0 then low.num * d.den ≤ d.num * low.den && d.num * high.den ≤ high.num * d.den
  else low.num * d.den < d.num * low.den && d.num * high.den < high.num * d.den

/-- The nearest decimal with at most `digits` digits that reads back, if there is one. -/
def withDigits? (tie : Tie) (mantissa : Nat) (exponent : Int) (digits : Nat) : Option Decimal :=
  let value := Ratio.ofBinary mantissa exponent
  let unit := value.point - digits
  let scaled := value.shift unit
  let below := scaled.num / scaled.den
  let fits (n : Nat) : Bool := readsBack mantissa exponent ((Ratio.mk n 1).shift (-unit))
  let twice := 2 * scaled.num
  let middle := (2 * below + 1) * scaled.den
  let lower := twice < middle || (twice = middle && tie == .toEven && below % 2 = 0)
  match fits below, fits (below + 1) with
  | true, true => some ⟨if lower then below else below + 1, unit⟩
  | true, false => some ⟨below, unit⟩
  | false, true => some ⟨below + 1, unit⟩
  | false, false => none

def Decimal.strip : Nat → Decimal → Decimal
  | 0, d => d
  | fuel + 1, d =>
    if d.coefficient ≠ 0 && d.coefficient % 10 = 0 then
      strip fuel ⟨d.coefficient / 10, d.exponent + 1⟩
    else d

/-- Tries `digits`, `digits + 1`, … digits; seventeen are always enough. -/
def shortestFrom (tie : Tie) (mantissa : Nat) (exponent : Int) : Nat → Nat → Decimal
  | 0, digits => ((withDigits? tie mantissa exponent digits).getD ⟨0, 0⟩).strip 20
  | more + 1, digits =>
    match withDigits? tie mantissa exponent digits with
    | some d => d.strip 20
    | none => shortestFrom tie mantissa exponent more (digits + 1)

def shortest (tie : Tie) (mantissa : Nat) (exponent : Int) : Decimal :=
  shortestFrom tie mantissa exponent 16 1

end Runbook.Number

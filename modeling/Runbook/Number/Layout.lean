import Runbook.Number.Shortest

/-!
# How numbers are written

All formats write the shortest digits; they differ in where they put the point, in what they add
to whole numbers, and in the words for what is no number.
-/

namespace Runbook.Number

structure Layout where
  /-- Numbers from `10 ^ least` up to but not including `10 ^ bound` have no exponent part. -/
  least : Int
  bound : Int
  /-- What follows a whole number that has no exponent part. -/
  wholeMark : String
  plus : String
  tie : Tie
  /-- Whether whole numbers are written with all their digits instead of the shortest. -/
  exactWhole : Bool
  signedZero : Bool
  nan : String
  infinity : String

def positional (wholeMark : String) (d : Decimal) : String :=
  let digits := Nat.toDigits 10 d.coefficient
  if 0 ≤ d.exponent then
    String.ofList (digits ++ List.replicate d.exponent.toNat '0') ++ wholeMark
  else
    let places := (-d.exponent).toNat
    let padded := List.replicate (places + 1 - digits.length) '0' ++ digits
    let whole := padded.length - places
    String.ofList (padded.take whole ++ '.' :: padded.drop whole)

def scientific (plus : String) (d : Decimal) : String :=
  let digits := Nat.toDigits 10 d.coefficient
  let power := d.exponent + (digits.length - 1 : Nat)
  let front := String.ofList (digits.take 1)
  let rest := if digits.length ≤ 1 then "" else "." ++ String.ofList (digits.drop 1)
  let sign := if power < 0 then "-" else plus
  front ++ rest ++ "e" ++ sign ++ toString power.natAbs

def Decimal.power (d : Decimal) : Int := d.exponent + digitCount d.coefficient - 1

def Layout.magnitude (l : Layout) (mantissa : Nat) (exponent : Int) : String :=
  let d := shortest l.tie mantissa exponent
  if l.least ≤ d.power && d.power < l.bound then
    match whole? mantissa exponent with
    | some n => if l.exactWhole then toString n ++ l.wholeMark else positional l.wholeMark d
    | none => positional l.wholeMark d
  else scientific l.plus d

def Layout.write (l : Layout) (x : Float) : String :=
  match parts x with
  | .nan => l.nan
  | .infinite negative => if negative then "-" ++ l.infinity else l.infinity
  | .finite negative m e =>
    if m = 0 then (if negative && l.signedZero then "-" else "") ++ "0" ++ l.wholeMark
    else (if negative then "-" else "") ++ l.magnitude m e

end Runbook.Number

/-!
# Binary64 numbers taken apart

Sign, mantissa and exponent, and the operations that are exact on the parts.
-/

namespace Runbook.Number

/-- A number taken apart. The magnitude of a finite one is `mantissa * 2 ^ exponent`. -/
inductive Parts where
  | nan
  | infinite (negative : Bool)
  | finite (negative : Bool) (mantissa : Nat) (exponent : Int)
  deriving Repr, BEq, DecidableEq

/-- Takes a number apart. Zeros and subnormal numbers have the least exponent, `-1074`. -/
def parts (x : Float) : Parts :=
  let bits := x.toBits.toNat
  let negative := bits / Nat.pow 2 63 == 1
  let biased : Nat := bits / Nat.pow 2 52 % Nat.pow 2 11
  let fraction := bits % Nat.pow 2 52
  if biased = 2047 then if fraction = 0 then .infinite negative else .nan
  else if biased = 0 then .finite negative fraction (-1074)
  else .finite negative (Nat.pow 2 52 + fraction) ((biased : Int) - 1075)

/-- Puts a finite number together whose mantissa is below `2 ^ 53` and whose exponent is at least
`-1074`. The mantissa is first moved up as far as it goes. -/
def ofFinite (negative : Bool) (mantissa : Nat) (exponent : Int) : Float :=
  let shift := min (52 - mantissa.log2) (exponent + 1074).toNat
  let m := mantissa * Nat.pow 2 shift
  let biased := (exponent - shift + 1075).toNat
  let magnitude := if m < Nat.pow 2 52 then m else biased * Nat.pow 2 52 + (m - Nat.pow 2 52)
  Float.ofBits (UInt64.ofNat (if negative then Nat.pow 2 63 + magnitude else magnitude))

def nan : Float := 0.0 / 0.0

def infinity : Float := 1.0 / 0.0

/-- What is left of `x` after taking off a whole number of `y`s, with the sign of `x`. -/
def remainder (x y : Float) : Float :=
  match parts x, parts y with
  | .nan, _ => nan
  | _, .nan => nan
  | .infinite _, _ => nan
  | .finite _ _ _, .infinite _ => x
  | .finite negative m e, .finite _ n f =>
    if n = 0 then nan
    else
      let least := min e f
      let rest := (m * Nat.pow 2 (e - least).toNat) % (n * Nat.pow 2 (f - least).toNat)
      ofFinite negative rest least

def whole? (mantissa : Nat) (exponent : Int) : Option Nat :=
  if 0 ≤ exponent then some (mantissa * Nat.pow 2 exponent.toNat)
  else
    let unit := Nat.pow 2 (-exponent).toNat
    if mantissa % unit = 0 then some (mantissa / unit) else none

def toNat? (x : Float) : Option Nat :=
  match parts x with
  | .finite negative m e => if negative && m ≠ 0 then none else whole? m e
  | _ => none

end Runbook.Number

import Runbook.Number.Layout
import Runbook.Number.Read
import Runbook.Text.Digits

/-! # Single settings, as a file or the environment gives them, and their conversions -/

namespace Runbook

inductive Setting where
  | nil
  | bool (v : Bool)
  | int (n : Int)
  | float (x : Float)
  | str (v : String)
  | list (items : List Setting)
  | table (entries : List (String × Setting))
  deriving Repr, Inhabited

abbrev Layer := List (String × Setting)

namespace Setting

/-- Numbers that become texts have no exponent part. -/
def layout : Number.Layout where
  least := -400
  bound := 400
  wholeMark := ""
  plus := ""
  tie := .up
  exactWhole := false
  signedZero := true
  nan := "NaN"
  infinity := "inf"

def toText? : Setting → Option String
  | str v => some v
  | bool v => some (if v then "true" else "false")
  | int n => some (toString n)
  | float x => some (layout.write x)
  | _ => none

/-- A truth value, also from a number, which is true unless it is zero, or from a word. -/
def toBool? : Setting → Option Bool
  | bool v => some v
  | int n => some (n != 0)
  | float x => some (!(x == 0))
  | str v =>
    let word := v.toLower
    if ["1", "true", "on", "yes"].contains word then some true
    else if ["0", "false", "off", "no"].contains word then some false
    else none
  | _ => none

def countBound : Nat := Nat.pow 2 64

/-- The nearest whole number that is not negative and has 64 bits; a half goes up. -/
def roundToCount (x : Float) : Nat :=
  match Number.parts x with
  | .nan => 0
  | .infinite negative => if negative then 0 else countBound - 1
  | .finite true _ _ => 0
  | .finite false m e =>
    let twice := (2 * m * Nat.pow 2 e.toNat) / Nat.pow 2 (-e).toNat
    min ((twice + 1) / 2) (countBound - 1)

/-- The number of 64 bits that a text of digits denotes, which may have a `+` before them. -/
def digitsCount? (s : String) : Option Nat :=
  let digits := match s.toList with
    | '+' :: rest => rest
    | cs => cs
  if digits.isEmpty || !digits.all Char.isDigit then none
  else
    let n := Text.decimalValue digits
    if n < countBound then some n else none

/-- A number that is not negative, also from a truth value or a word. -/
def toCount? : Setting → Option Nat
  | int n => if 0 ≤ n then some n.toNat else none
  | bool v => some (if v then 1 else 0)
  | float x => some (roundToCount x)
  | str v =>
    let word := v.toLower
    if ["true", "on", "yes"].contains word then some 1
    else if ["false", "off", "no"].contains word then some 0
    else digitsCount? v
  | _ => none

/-! ## Settings from words -/

def fitsInt (n : Int) : Bool := -(Nat.pow 2 63 : Int) ≤ n && n < (Nat.pow 2 63 : Int)

def int? (cs : List Char) : Option Int :=
  let (negative, digits) := Number.sign cs
  if digits.isEmpty || !digits.all Char.isDigit then none
  else
    let n : Int := Text.decimalValue digits
    let n := if negative then -n else n
    if fitsInt n then some n else none

def float? (cs : List Char) : Option Float :=
  let (negative, rest) := Number.sign cs
  let word := (String.ofList rest).toLower
  if word = "inf" || word = "infinity" then
    some (if negative then -Number.infinity else Number.infinity)
  else if word = "nan" then some Number.nan
  else Number.decimal? cs

def ofWord (s : String) : Setting :=
  match s.toLower with
  | "true" => bool true
  | "false" => bool false
  | _ =>
    match int? s.toList, float? s.toList with
    | some n, _ => int n
    | none, some x => float x
    | none, none => str s

end Setting

end Runbook

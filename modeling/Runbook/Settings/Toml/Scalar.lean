import Runbook.Settings.Setting
import Runbook.Settings.Toml.Text

/-! # Numbers, truth values and dates of TOML -/

namespace Runbook.Toml

/-! ## Numbers -/

/-- Digits with single underscores between them, without the underscores. -/
def digits? (isDigit : Char → Bool) : List Char → Option (List Char)
  | [] => none
  | [c] => if isDigit c then some [c] else none
  | c :: '_' :: rest => if isDigit c then (digits? isDigit rest).map (c :: ·) else none
  | c :: d :: rest => if isDigit c then (digits? isDigit (d :: rest)).map (c :: ·) else none

/-- The digits of a number before its point: a zero stands alone. -/
def wholeDigits? (cs : List Char) : Option (List Char) :=
  match digits? Char.isDigit cs with
  | some ('0' :: _ :: _) => none
  | digits => digits

def radixValue (radix : Nat) (digits : List Char) : Nat :=
  digits.foldl (fun n c => radix * n + (Text.hexDigit? c).getD 0) 0

def isDigitOf (radix : Nat) (c : Char) : Bool :=
  match Text.hexDigit? c with
  | some n => n < radix
  | none => false

def whole? (n : Int) : Option Setting := if Setting.fitsInt n then some (.int n) else none

def integer? (cs : List Char) : Option Setting :=
  let inRadix (radix : Nat) (digits : List Char) : Option Setting := do
    whole? (radixValue radix (← digits? (isDigitOf radix) digits))
  match cs with
  | '0' :: 'x' :: rest => inRadix 16 rest
  | '0' :: 'o' :: rest => inRadix 8 rest
  | '0' :: 'b' :: rest => inRadix 2 rest
  | _ =>
    let (negative, rest) := Number.sign cs
    do
      let n : Int := Text.decimalValue (← wholeDigits? rest)
      whole? (if negative then -n else n)

def isExponentMark (c : Char) : Bool := c = 'e' || c = 'E'

def float? (cs : List Char) : Option Setting := do
  let (negative, rest) := Number.sign cs
  let signed (x : Float) : Float := if negative then -x else x
  if rest = "inf".toList then some (.float (signed Number.infinity))
  else if rest = "nan".toList then some (.float Number.nan)
  else
    let front := rest.takeWhile (!isExponentMark ·)
    let exponent ← match rest.dropWhile (!isExponentMark ·) with
      | [] => some 0
      | _ :: digits => do
        let (negative, digits) := Number.sign digits
        let n : Int := Text.decimalValue (← digits? Char.isDigit digits)
        some (if negative then -n else n)
    let whole ← wholeDigits? (front.takeWhile (· ≠ '.'))
    let fraction ← match front.dropWhile (· ≠ '.') with
      | [] => if front.length = rest.length then none else some []
      | _ :: digits => digits? Char.isDigit digits
    let x := signed (Number.Literal.value ⟨whole, fraction, exponent⟩)
    if x == Number.infinity then none else some (.float x)

/-! ## Dates and times -/

def fixed? (count : Nat) (cs : List Char) : Option (Nat × List Char) :=
  let digits := cs.take count
  if digits.length = count && digits.all Char.isDigit then
    some (Text.decimalValue digits, cs.drop count)
  else none

def drop? (c : Char) : List Char → Option (List Char)
  | d :: rest => if d = c then some rest else none
  | [] => none

def isLeapYear (year : Nat) : Bool := year % 4 = 0 && (year % 100 ≠ 0 || year % 400 = 0)

def daysIn (year month : Nat) : Nat :=
  match month with
  | 2 => if isLeapYear year then 29 else 28
  | 4 => 30
  | 6 => 30
  | 9 => 30
  | 11 => 30
  | _ => 31

def padded (width n : Nat) : String :=
  let digits := Nat.toDigits 10 n
  String.ofList (List.replicate (width - digits.length) '0' ++ digits)

def date? (cs : List Char) : Option (String × List Char) := do
  let (year, rest) ← fixed? 4 cs
  let (month, rest) ← fixed? 2 (← drop? '-' rest)
  let (day, rest) ← fixed? 2 (← drop? '-' rest)
  if 1 ≤ month && month ≤ 12 && 1 ≤ day && day ≤ daysIn year month then
    some (padded 4 year ++ "-" ++ padded 2 month ++ "-" ++ padded 2 day, rest)
  else none

/-- The fraction of a second: nine digits count, and final zeros are not written. -/
def secondFraction? (cs : List Char) : Option (String × List Char) :=
  match cs with
  | '.' :: rest =>
    let digits := rest.takeWhile Char.isDigit
    let shown := ((digits.take 9).reverse.dropWhile (· = '0')).reverse
    if digits.isEmpty then none
    else
      let text := if shown.isEmpty then "" else "." ++ String.ofList shown
      some (text, rest.dropWhile Char.isDigit)
  | _ => some ("", cs)

def time? (cs : List Char) : Option (String × List Char) := do
  let (hour, rest) ← fixed? 2 cs
  let (minute, rest) ← fixed? 2 (← drop? ':' rest)
  let (second, rest) ← fixed? 2 (← drop? ':' rest)
  let (fraction, rest) ← secondFraction? rest
  if hour ≤ 23 && minute ≤ 59 && second ≤ 60 then
    some (padded 2 hour ++ ":" ++ padded 2 minute ++ ":" ++ padded 2 second ++ fraction, rest)
  else none

/-- The distance of a time from the zero meridian; a time need not have one. -/
def offset? (cs : List Char) : Option (String × List Char) :=
  match cs with
  | c :: rest =>
    if c = 'Z' || c = 'z' then some ("Z", rest)
    else if c = '+' || c = '-' then do
      let (hour, rest) ← fixed? 2 rest
      let (minute, rest) ← fixed? 2 (← drop? ':' rest)
      if hour ≤ 23 && minute ≤ 59 then
        some (String.ofList [c] ++ padded 2 hour ++ ":" ++ padded 2 minute, rest)
      else none
    else some ("", cs)
  | [] => some ("", [])

/-- A date, a time, or both with `T` or a single space between them; all are texts to the
settings. -/
def moment? (cs : List Char) : Option (Setting × List Char) :=
  match date? cs with
  | none => (time? cs).map fun (time, rest) => (.str time, rest)
  | some (date, rest) =>
    let joined (after : List Char) : Option (Setting × List Char) := do
      let (time, rest) ← time? after
      let (offset, rest) ← offset? rest
      some (.str (date ++ "T" ++ time ++ offset), rest)
    match rest with
    | 'T' :: after => joined after
    | 't' :: after => joined after
    | ' ' :: d :: after => if d.isDigit then joined (d :: after) else some (.str date, rest)
    | _ => some (.str date, rest)

/-! ## Any of these -/

def isWordChar (c : Char) : Bool := c.isAlphanum || c = '+' || c = '-' || c = '_' || c = '.'

def beginsMoment (cs : List Char) : Bool :=
  (fixed? 4 cs).any (fun (_, rest) => rest.head? = some '-') ||
    (fixed? 2 cs).any (fun (_, rest) => rest.head? = some ':')

def scalar? (cs : List Char) : Option (Setting × List Char) :=
  if beginsMoment cs then moment? cs
  else
    let word := cs.takeWhile isWordChar
    let rest := cs.dropWhile isWordChar
    if word = "true".toList then some (.bool true, rest)
    else if word = "false".toList then some (.bool false, rest)
    else
      match integer? word with
      | some s => some (s, rest)
      | none => (float? word).map (·, rest)

end Runbook.Toml

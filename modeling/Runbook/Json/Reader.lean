import Runbook.Json.Basic
import Runbook.Number.Read

/-!
# Reading JSON

Numbers that are not whole are scaled by one power of ten, so a number with many digits may come
out beside the nearest binary number.
-/

namespace Runbook.Json

def isSpace (c : Char) : Bool := c = ' ' || c = '\n' || c = '\t' || c = '\r'

def skipSpace (cs : List Char) : List Char := cs.dropWhile isSpace

/-! ## Numbers -/

/-- Adds digits to a significand as long as it has 64 bits, and counts those it took. -/
def absorb (significand : Nat) : List Char → Nat × Nat
  | [] => (significand, 0)
  | d :: digits =>
    let next := 10 * significand + (d.toNat - 48)
    if next < Nat.pow 2 64 then
      let (all, taken) := absorb next digits
      (all, taken + 1)
    else (significand, 0)

def maxPower : Nat := 308

/-- `f * 10 ^ exponent`, unless it is too large. -/
def scale? : Nat → Float → Int → Option Float
  | 0, f, _ => some f
  | fuel + 1, f, exponent =>
    if exponent.natAbs ≤ maxPower then
      let power := Number.nearest 1 exponent.natAbs
      if 0 ≤ exponent then
        match Number.parts (f * power) with
        | .finite .. => some (f * power)
        | _ => none
      else some (f / power)
    else if f == 0 then some f
    else if 0 ≤ exponent then none
    else scale? fuel (f / Number.nearest 1 maxPower) (exponent + maxPower)

/-- The value of a number from the digits before and after its point and its exponent. Digits beyond
64 bits are dropped; those before the point still count for its size. -/
def number? (negative : Bool) (whole : List Char) (fraction : Option (List Char))
    (exponent : Option Int) : Option Json :=
  let (front, kept) := absorb 0 whole
  let dropped : Int := (whole.length - kept : Nat)
  match fraction, exponent, dropped with
  | none, none, 0 =>
    if !negative then some (.whole front)
    else if 0 < front && front ≤ Nat.pow 2 63 then some (.whole (-front))
    else some (.real (-(Number.nearest front 0)))
  | _, _, _ =>
    let (significand, places) := absorb front (fraction.getD [])
    let power := dropped - places + exponent.getD 0
    (scale? 4 (Number.nearest significand 0) power).map fun f => .real (if negative then -f else f)

/-- The digits before the point: a zero stands alone. -/
def wholeDigits? (cs : List Char) : Option (List Char × List Char) :=
  match cs.takeWhile Char.isDigit with
  | [] => none
  | '0' :: _ :: _ => none
  | digits => some (digits, cs.dropWhile Char.isDigit)

def fractionDigits? (cs : List Char) : Option (Option (List Char) × List Char) :=
  match cs with
  | '.' :: rest =>
    match rest.takeWhile Char.isDigit with
    | [] => none
    | digits => some (some digits, rest.dropWhile Char.isDigit)
  | _ => some (none, cs)

def exponent? (cs : List Char) : Option (Option Int × List Char) :=
  match cs with
  | c :: rest =>
    if c = 'e' || c = 'E' then
      let (negative, rest) := Number.sign rest
      match rest.takeWhile Char.isDigit with
      | [] => none
      | digits =>
        let n : Int := Text.decimalValue digits
        some (some (if negative then -n else n), rest.dropWhile Char.isDigit)
    else some (none, cs)
  | [] => some (none, [])

def readNumber? (cs : List Char) : Option (Json × List Char) := do
  let (negative, digits) := match cs with
    | '-' :: rest => (true, rest)
    | _ => (false, cs)
  let (front, rest) ← wholeDigits? digits
  let (fraction, rest) ← fractionDigits? rest
  let (exponent, rest) ← exponent? rest
  let n ← number? negative front fraction exponent
  some (n, rest)

/-! ## Texts -/

def hexUnit? (a b c d : Char) : Option Nat :=
  if [a, b, c, d].all Text.isHexDigit then some (Text.hexValue [a, b, c, d]) else none

def isHighSurrogate (n : Nat) : Bool := 0xd800 ≤ n && n ≤ 0xdbff

def isLowSurrogate (n : Nat) : Bool := 0xdc00 ≤ n && n ≤ 0xdfff

def simpleEscape? : Char → Option Char
  | '"' => some '"'
  | '\\' => some '\\'
  | '/' => some '/'
  | 'b' => some '\x08'
  | 'f' => some '\x0c'
  | 'n' => some '\n'
  | 'r' => some '\r'
  | 't' => some '\t'
  | _ => none

/-- Reads a text up to its closing quote. Surrogates come in pairs, and control characters are
escaped. -/
def stringBody? : Nat → List Char → Option (List Char × List Char)
  | 0, _ => none
  | _ + 1, [] => none
  | _ + 1, '"' :: rest => some ([], rest)
  | fuel + 1, '\\' :: 'u' :: a :: b :: c :: d :: rest => do
    let n ← hexUnit? a b c d
    if isLowSurrogate n then none
    else if isHighSurrogate n then
      match rest with
      | '\\' :: 'u' :: a :: b :: c :: d :: rest => do
        let m ← hexUnit? a b c d
        if isLowSurrogate m then
          let (body, rest) ← stringBody? fuel rest
          some (Char.ofNat (0x10000 + (n - 0xd800) * 0x400 + (m - 0xdc00)) :: body, rest)
        else none
      | _ => none
    else
      let (body, rest) ← stringBody? fuel rest
      some (Char.ofNat n :: body, rest)
  | fuel + 1, '\\' :: c :: rest => do
    let e ← simpleEscape? c
    let (body, rest) ← stringBody? fuel rest
    some (e :: body, rest)
  | fuel + 1, c :: rest =>
    if c = '\\' || c.toNat < 0x20 then none
    else do
      let (body, rest) ← stringBody? fuel rest
      some (c :: body, rest)

def readString? (cs : List Char) : Option (String × List Char) :=
  match cs with
  | '"' :: rest => (stringBody? (rest.length + 1) rest).map fun (body, after) =>
      (String.ofList body, after)
  | _ => none

def word? (word : String) (cs : List Char) : Option (List Char) :=
  if word.toList.isPrefixOf cs then some (cs.drop word.length) else none

/-! ## Values -/

mutual

/-- Reads a value inside which at most `depth` brackets may be open at a time. -/
def value? : Nat → Nat → List Char → Option (Json × List Char)
  | 0, _, _ => none
  | fuel + 1, depth, cs =>
    match cs with
    | [] => none
    | '[' :: rest =>
      match depth, skipSpace rest with
      | 0, _ => none
      | _, ']' :: rest => some (.arr [], rest)
      | depth + 1, rest => (items? fuel depth rest).map fun (items, rest) => (.arr items, rest)
    | '\x7b' :: rest =>
      match depth, skipSpace rest with
      | 0, _ => none
      | _, '\x7d' :: rest => some (.obj [], rest)
      | depth + 1, rest => (fields? fuel depth rest).map fun (fields, rest) => (.obj fields, rest)
    | '"' :: _ => (readString? cs).map fun (s, rest) => (.str s, rest)
    | 'n' :: _ => (word? "null" cs).map (.null, ·)
    | 't' :: _ => (word? "true" cs).map (.bool true, ·)
    | 'f' :: _ => (word? "false" cs).map (.bool false, ·)
    | _ => readNumber? cs

def items? : Nat → Nat → List Char → Option (List Json × List Char)
  | 0, _, _ => none
  | fuel + 1, depth, cs => do
    let (item, rest) ← value? fuel depth cs
    match skipSpace rest with
    | ']' :: rest => some ([item], rest)
    | ',' :: rest => do
      let (items, rest) ← items? fuel depth (skipSpace rest)
      some (item :: items, rest)
    | _ => none

def fields? : Nat → Nat → List Char → Option (List (String × Json) × List Char)
  | 0, _, _ => none
  | fuel + 1, depth, cs => do
    let (key, rest) ← readString? cs
    match skipSpace rest with
    | ':' :: rest => do
      let (value, rest) ← value? fuel depth (skipSpace rest)
      match skipSpace rest with
      | '\x7d' :: rest => some ([(key, value)], rest)
      | ',' :: rest => do
        let (fields, rest) ← fields? fuel depth (skipSpace rest)
        some ((key, value) :: fields, rest)
      | _ => none
    | _ => none

end

def maxDepth : Nat := 127

def parse? (text : String) : Option Json :=
  let cs := text.toList
  match value? (2 * cs.length + 2) maxDepth (skipSpace cs) with
  | some (v, rest) => if (skipSpace rest).isEmpty then some v else none
  | none => none

end Runbook.Json

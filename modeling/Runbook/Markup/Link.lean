import Runbook.Markup.Entity
import Runbook.Markup.Glyph
import Runbook.Text.CaseFold

/-!
# The parts of links

Destinations, titles, labels, and addresses in angle brackets. Each reader takes the text at which
its part begins and returns how many characters the part takes.
-/

namespace Runbook.Markup

open Text (isAsciiPunctuation)

/-! ## Destinations -/

def pointedDestination : List Char → Option (List Char)
  | [] => none
  | '\\' :: c :: rest =>
    if isAsciiPunctuation c then ('\\' :: c :: ·) <$> pointedDestination rest
    else ('\\' :: ·) <$> pointedDestination (c :: rest)
  | c :: rest =>
    if c = '>' then some []
    else if c = '<' || c = '\n' then none
    else (c :: ·) <$> pointedDestination rest

/-- A destination without brackets: it ends at a blank or control character or at the parenthesis
that closes the link. `depth` parentheses are open, and at most `limit + 1` may be. -/
def bareDestination (limit : Nat) : Nat → List Char → Option (List Char)
  | depth, [] => if depth = 0 then some [] else none
  | depth, '\\' :: c :: rest =>
    if isAsciiPunctuation c then ('\\' :: c :: ·) <$> bareDestination limit depth rest
    else ('\\' :: ·) <$> bareDestination limit depth (c :: rest)
  | depth, c :: rest =>
    if c.toNat ≤ 0x20 then if depth = 0 then some [] else none
    else if c = '(' then
      if limit < depth then none else (c :: ·) <$> bareDestination limit (depth + 1) rest
    else if c = ')' then
      if depth = 0 then some [] else (c :: ·) <$> bareDestination limit (depth - 1) rest
    else (c :: ·) <$> bareDestination limit depth rest

def destination? (limit : Nat) : List Char → Option (String × Nat)
  | '<' :: rest =>
    (pointedDestination rest).map fun url => (String.ofList (unescape url), url.length + 2)
  | cs => (bareDestination limit 0 cs).map fun url => (String.ofList (unescape url), url.length)

/-! ## Titles -/

def titleRest (opening closing : Char) : List Char → Option Nat
  | [] => none
  | '\\' :: c :: rest =>
    if isAsciiPunctuation c then (· + 2) <$> titleRest opening closing rest
    else (· + 1) <$> titleRest opening closing (c :: rest)
  | c :: rest =>
    if c = closing then some 1
    else if c = opening then none
    else (· + 1) <$> titleRest opening closing rest

def title? : List Char → Option Nat
  | '"' :: rest => (· + 1) <$> titleRest '"' '"' rest
  | '\'' :: rest => (· + 1) <$> titleRest '\'' '\'' rest
  | '(' :: rest => (· + 1) <$> titleRest '(' ')' rest
  | _ => none

def gapLength (cs : List Char) : Nat := (cs.takeWhile isGap).length

def linkTarget? : List Char → Option (String × Nat)
  | '(' :: rest => do
    let before := gapLength rest
    let (url, n) ← destination? 32 (rest.drop before)
    let afterUrl := before + n
    let afterGap := afterUrl + gapLength (rest.drop afterUrl)
    let stop := match title? (rest.drop afterGap) with
      | some t => afterGap + t + gapLength (rest.drop (afterGap + t))
      | none => afterGap
    if (rest.drop stop).head? = some ')' then some (url, stop + 2) else none
  | _ => none

/-! ## Labels -/

def labelContent : List Char → Option (List Char)
  | [] => none
  | '\\' :: c :: rest => ('\\' :: c :: ·) <$> labelContent rest
  | c :: rest =>
    if c = ']' then some [] else if c = '[' then none else (c :: ·) <$> labelContent rest

/-- Every run of blanks becomes one space. `inGap` tells whether a space has just been written. -/
def collapseGaps (inGap : Bool) : List Char → List Char
  | [] => []
  | c :: rest =>
    if isGap c then if inGap then collapseGaps true rest else ' ' :: collapseGaps true rest
    else c :: collapseGaps false rest

/-- Labels are compared without regard to case and to the kind and number of blanks. -/
def normalLabel (cs : List Char) : String := String.ofList (Text.fold (collapseGaps false cs))

def label? (cs : List Char) : Option (String × Nat) := do
  let content ← labelContent cs
  if content.length < 1000 && !content.all isGap then
    some (normalLabel content, content.length + 1)
  else none

/-! ## Addresses in angle brackets -/

/-- `scheme:address` up to the closing bracket, after the opening one. -/
def absoluteUri? (cs : List Char) : Option (List Char) := do
  let scheme := cs.takeWhile fun c => c.isAlphanum || c = '.' || c = '-' || c = '+'
  let first ← scheme.head?
  let rest := cs.drop scheme.length
  let body := rest.takeWhile fun c => c ≠ '>' && c ≠ '<' && 0x20 < c.toNat
  if first.isAlpha && 2 ≤ scheme.length && scheme.length ≤ 32 && rest.head? = some ':' &&
      (rest.drop body.length).head? = some '>' then
    some (scheme ++ body)
  else none

def isMailboxChar (c : Char) : Bool :=
  c.isAlphanum || ".!#$%&'*+/=?^_`\x7b|\x7d~-".contains c

/-- A part of a host name: letters, digits and inner hyphens, at most 63. -/
def isHostLabel (cs : List Char) : Bool :=
  cs.length ≤ 63 && cs.all (fun c => c.isAlphanum || c = '-') && cs.head?.any (· ≠ '-') &&
    cs.getLast?.any (· ≠ '-')

def mailAddress? (cs : List Char) : Option (List Char) := do
  let mailbox := cs.takeWhile isMailboxChar
  let rest := cs.drop mailbox.length
  let host := (rest.drop 1).takeWhile fun c => c.isAlphanum || c = '-' || c = '.'
  if !mailbox.isEmpty && rest.head? = some '@' &&
      (host.splitOn '.').all isHostLabel && (rest.drop (host.length + 1)).head? = some '>' then
    some (mailbox ++ '@' :: host)
  else none

def autolink? (cs : List Char) : Option (String × Nat) :=
  ((absoluteUri? cs).orElse fun _ => mailAddress? cs).map fun address =>
    (String.ofList address, address.length + 1)

end Runbook.Markup

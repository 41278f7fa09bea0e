import Runbook.Markup.EntityTable
import Runbook.Text.Digits
import Runbook.Text.Punctuation

/-! # Character references (`&amp;`, `&#65;`, `&#x41;`) and backslash escapes -/

namespace Runbook.Markup

open Text (isAsciiPunctuation isHexDigit hexValue decimalValue)

/-- The character a numeric reference stands for: code point zero shows as the replacement mark. -/
def referenced (n : Nat) : Option String :=
  if n = 0 then some "�" else if n.isValidChar then some (Char.ofNat n).toString else none

def entity? : List Char → Option (String × Nat)
  | '&' :: '#' :: 'x' :: rest => hexReference rest
  | '&' :: '#' :: 'X' :: rest => hexReference rest
  | '&' :: '#' :: rest =>
    let digits := (rest.take 7).takeWhile Char.isDigit
    if digits.isEmpty || (rest.drop digits.length).head? ≠ some ';' then none
    else (referenced (decimalValue digits)).map (·, digits.length + 3)
  | '&' :: rest =>
    let name := rest.takeWhile Char.isAlphanum
    if (rest.drop name.length).head? ≠ some ';' then none
    else (entities.lookup (String.ofList name)).map (·, name.length + 2)
  | _ => none
where
  hexReference (rest : List Char) : Option (String × Nat) :=
    let digits := (rest.take 6).takeWhile isHexDigit
    if digits.isEmpty || (rest.drop digits.length).head? ≠ some ';' then none
    else (referenced (hexValue digits)).map (·, digits.length + 4)

/-- Resolves escapes and references after skipping the first `skip` characters. -/
def unescapeFrom : Nat → List Char → List Char
  | _, [] => []
  | skip + 1, _ :: rest => unescapeFrom skip rest
  | 0, c :: rest =>
    if c = '\\' && rest.head?.any isAsciiPunctuation then
      rest.take 1 ++ unescapeFrom 1 rest
    else
      match entity? (c :: rest) with
      | some (s, n) => s.toList ++ unescapeFrom (n - 1) rest
      | none => c :: unescapeFrom 0 rest

def unescape (cs : List Char) : List Char := unescapeFrom 0 cs

end Runbook.Markup

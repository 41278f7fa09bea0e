import Runbook.Text.IdentifierTable

/-! # Identifiers: names of variables, functions and members -/

namespace Runbook.Text

def isIdentifierStart (c : Char) : Bool := c = '_' || c = '$' || identifierStart.has c.toNat

def isIdentifierPart (c : Char) : Bool := c = '$' || identifierContinue.has c.toNat

def identifier? : List Char → Option (List Char × List Char)
  | [] => none
  | c :: rest =>
    if isIdentifierStart c then
      some (c :: rest.takeWhile isIdentifierPart, rest.dropWhile isIdentifierPart)
    else none

def isIdentifier : List Char → Bool
  | [] => false
  | c :: rest => isIdentifierStart c && rest.all isIdentifierPart

end Runbook.Text

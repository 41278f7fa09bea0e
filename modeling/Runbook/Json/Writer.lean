import Runbook.Json.Basic
import Runbook.Number.Layout

/-! # Writing JSON, on one line or with one item a line -/

namespace Runbook.Json

/-- Numbers in JSON show that they need not be whole, and keep the sign of zero. -/
def layout : Number.Layout where
  least := -5
  bound := 16
  wholeMark := ".0"
  plus := "+"
  tie := .toEven
  exactWhole := false
  signedZero := true
  nan := "null"
  infinity := "null"

def number (x : Float) : String :=
  match Number.parts x with
  | .finite .. => layout.write x
  | _ => "null"

def escape (c : Char) : List Char :=
  match c with
  | '"' => ['\\', '"']
  | '\\' => ['\\', '\\']
  | '\x08' => ['\\', 'b']
  | '\t' => ['\\', 't']
  | '\n' => ['\\', 'n']
  | '\x0c' => ['\\', 'f']
  | '\r' => ['\\', 'r']
  | _ =>
    if c.toNat < 0x20 then
      ['\\', 'u', '0', '0', Nat.digitChar (c.toNat / 16), Nat.digitChar (c.toNat % 16)]
    else [c]

def quote (s : String) : String := String.ofList ('"' :: s.toList.flatMap escape ++ ['"'])

mutual

def compact : Json → String
  | null => "null"
  | bool v => if v then "true" else "false"
  | whole n => toString n
  | real x => number x
  | str v => quote v
  | arr items => "[" ++ compactItems items ++ "]"
  | obj fields => "\x7b" ++ compactFields fields ++ "\x7d"

def compactItems : List Json → String
  | [] => ""
  | [v] => compact v
  | v :: rest => compact v ++ "," ++ compactItems rest

def compactFields : List (String × Json) → String
  | [] => ""
  | [(k, v)] => quote k ++ ":" ++ compact v
  | (k, v) :: rest => quote k ++ ":" ++ compact v ++ "," ++ compactFields rest

end

def newLine (indent : Nat) : String := "\n" ++ String.ofList (List.replicate (2 * indent) ' ')

mutual

/-- The text of a value with one item or field a line, indented by two spaces a level. -/
def prettyAt (indent : Nat) : Json → String
  | null => "null"
  | bool v => if v then "true" else "false"
  | whole n => toString n
  | real x => number x
  | str v => quote v
  | arr [] => "[]"
  | arr items => "[" ++ prettyItems (indent + 1) items ++ newLine indent ++ "]"
  | obj [] => "\x7b\x7d"
  | obj fields => "\x7b" ++ prettyFields (indent + 1) fields ++ newLine indent ++ "\x7d"

def prettyItems (indent : Nat) : List Json → String
  | [] => ""
  | [v] => newLine indent ++ prettyAt indent v
  | v :: rest => newLine indent ++ prettyAt indent v ++ "," ++ prettyItems indent rest

def prettyFields (indent : Nat) : List (String × Json) → String
  | [] => ""
  | [(k, v)] => newLine indent ++ quote k ++ ": " ++ prettyAt indent v
  | (k, v) :: rest =>
    newLine indent ++ quote k ++ ": " ++ prettyAt indent v ++ "," ++ prettyFields indent rest

end

def pretty : Json → String := prettyAt 0

end Runbook.Json

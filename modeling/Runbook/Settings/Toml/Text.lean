import Runbook.Text.Digits

/-! # Text literals of TOML: on one line or on many, with escapes or without -/

namespace Runbook.Toml

def isControl (c : Char) : Bool := (c.toNat < 0x20 && c ≠ '\t') || c.toNat = 0x7f

def isSpace (c : Char) : Bool := c = ' ' || c = '\t'

def skipSpace (cs : List Char) : List Char := cs.dropWhile isSpace

def lineEnd? : List Char → Option (List Char)
  | '\n' :: rest => some rest
  | '\x0d' :: '\n' :: rest => some rest
  | _ => none

def codePoint? (digits : List Char) : Option Char :=
  let n := Text.hexValue digits
  if digits.all Text.isHexDigit && n.isValidChar then some (Char.ofNat n) else none

def simpleEscape? : Char → Option Char
  | 'b' => some '\x08'
  | 't' => some '\t'
  | 'n' => some '\n'
  | 'f' => some '\x0c'
  | 'r' => some '\x0d'
  | '"' => some '"'
  | '\\' => some '\\'
  | _ => none

def escape? : List Char → Option (Char × List Char)
  | 'u' :: rest =>
    if rest.length < 4 then none else (codePoint? (rest.take 4)).map (·, rest.drop 4)
  | 'U' :: rest =>
    if rest.length < 8 then none else (codePoint? (rest.take 8)).map (·, rest.drop 8)
  | c :: rest => (simpleEscape? c).map (·, rest)
  | [] => none

def basic? : Nat → List Char → Option (List Char × List Char)
  | 0, _ => none
  | _ + 1, [] => none
  | _ + 1, '"' :: rest => some ([], rest)
  | fuel + 1, '\\' :: rest => do
    let (c, rest) ← escape? rest
    let (body, rest) ← basic? fuel rest
    some (c :: body, rest)
  | fuel + 1, c :: rest =>
    if isControl c then none
    else do
      let (body, rest) ← basic? fuel rest
      some (c :: body, rest)

def literal? : List Char → Option (List Char × List Char)
  | [] => none
  | c :: rest =>
    if c = '\'' then some ([], rest)
    else if isControl c then none
    else (literal? rest).map fun (body, after) => (c :: body, after)

/-- A run of at least three quotes closes a text of many lines. The last three of at most five are
the mark; the others belong to the content. -/
def closing? (quote : Char) (cs : List Char) : Option (List Char × List Char) :=
  let run := (cs.takeWhile (· = quote)).length
  if run < 3 || 5 < run then none else some (List.replicate (run - 3) quote, cs.drop run)

def skipBlankLines : List Char → List Char
  | [] => []
  | '\x0d' :: '\n' :: rest => skipBlankLines rest
  | c :: rest => if isSpace c || c = '\n' then skipBlankLines rest else c :: rest

/-- What follows a backslash that ends its line: the text goes on at the next character that is no
blank. -/
def continued? (cs : List Char) : Option (List Char) := (lineEnd? (skipSpace cs)).map skipBlankLines

/-- The content of a text of many lines after its opening quotes. Line ends become `\n`. -/
def lines? (quote : Char) (escapes : Bool) : Nat → List Char → Option (List Char × List Char)
  | 0, _ => none
  | _ + 1, [] => none
  | fuel + 1, c :: rest =>
    if c = quote then
      match closing? quote (c :: rest) with
      | some closed => some closed
      | none => do
        let run := ((c :: rest).takeWhile (· = quote)).length
        if 5 < run then none
        else
          let (body, after) ← lines? quote escapes fuel ((c :: rest).drop run)
          some (List.replicate run quote ++ body, after)
    else if c = '\\' && escapes then
      match continued? rest with
      | some next => lines? quote escapes fuel next
      | none => do
        let (e, next) ← escape? rest
        let (body, after) ← lines? quote escapes fuel next
        some (e :: body, after)
    else
      match lineEnd? (c :: rest) with
      | some next => do
        let (body, after) ← lines? quote escapes fuel next
        some ('\n' :: body, after)
      | none =>
        if isControl c then none
        else do
          let (body, after) ← lines? quote escapes fuel rest
          some (c :: body, after)

/-- A line end right after the opening quotes does not count. -/
def dropFirstLineEnd (cs : List Char) : List Char := (lineEnd? cs).getD cs

def text? (cs : List Char) : Option (String × List Char) :=
  let finish (read : Option (List Char × List Char)) : Option (String × List Char) :=
    read.map fun (body, rest) => (String.ofList body, rest)
  match cs with
  | '"' :: '"' :: '"' :: rest => finish (lines? '"' true (rest.length + 1) (dropFirstLineEnd rest))
  | '"' :: rest => finish (basic? (rest.length + 1) rest)
  | '\'' :: '\'' :: '\'' :: rest =>
    finish (lines? '\'' false (rest.length + 1) (dropFirstLineEnd rest))
  | '\'' :: rest => finish (literal? rest)
  | _ => none

end Runbook.Toml

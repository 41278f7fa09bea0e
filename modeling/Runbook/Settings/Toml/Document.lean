import Runbook.Settings.Toml.Scalar
import Runbook.Settings.Toml.Table

/-! # Whole TOML documents -/

namespace Runbook.Toml

def isKeyChar (c : Char) : Bool := c.isAlphanum || c = '_' || c = '-'

def name? (cs : List Char) : Option (String × List Char) :=
  match cs with
  | '"' :: rest =>
    (basic? (rest.length + 1) rest).map fun (body, after) => (String.ofList body, after)
  | '\'' :: rest => (literal? rest).map fun (body, after) => (String.ofList body, after)
  | _ =>
    let name := cs.takeWhile isKeyChar
    if name.isEmpty then none else some (String.ofList name, cs.dropWhile isKeyChar)

def key? : Nat → List Char → Option (List String × List Char)
  | 0, _ => none
  | fuel + 1, cs => do
    let (name, rest) ← name? (skipSpace cs)
    match skipSpace rest with
    | '.' :: rest => do
      let (names, rest) ← key? fuel rest
      some (name :: names, rest)
    | rest => some ([name], rest)

def skipComment? (cs : List Char) : Option (List Char) :=
  match cs with
  | '#' :: rest =>
    let isEnd (c : Char) : Bool := c = '\n' || c = '\x0d'
    if (rest.takeWhile (!isEnd ·)).any isControl then none else some (rest.dropWhile (!isEnd ·))
  | _ => some cs

def skipLines? : Nat → List Char → Option (List Char)
  | 0, cs => some cs
  | fuel + 1, cs => do
    let rest ← skipComment? (skipSpace cs)
    match lineEnd? rest with
    | some rest => skipLines? fuel rest
    | none => some rest

mutual

def value? : Nat → List Char → Option (Setting × List Char)
  | 0, _ => none
  | fuel + 1, cs =>
    match cs with
    | '[' :: rest => (items? fuel rest).map fun (items, rest) => (.list items, rest)
    | '\x7b' :: rest =>
      match skipSpace rest with
      | '\x7d' :: rest => some (.table [], rest)
      | rest => (pairs? fuel [] rest).map fun (entries, rest) => (.table (layer entries), rest)
    | '"' :: _ => (text? cs).map fun (s, rest) => (.str s, rest)
    | '\'' :: _ => (text? cs).map fun (s, rest) => (.str s, rest)
    | _ => scalar? cs

/-- The items of an array up to its closing bracket. A comma may follow the last one. -/
def items? : Nat → List Char → Option (List Setting × List Char)
  | 0, _ => none
  | fuel + 1, cs => do
    let rest ← skipLines? cs.length cs
    match rest with
    | ']' :: rest => some ([], rest)
    | _ => do
      let (item, rest) ← value? fuel rest
      match ← skipLines? rest.length rest with
      | ']' :: rest => some ([item], rest)
      | ',' :: rest => do
        let (items, rest) ← items? fuel rest
        some (item :: items, rest)
      | _ => none

/-- The pairs of a table on one line, up to its closing brace. -/
def pairs? : Nat → Entries → List Char → Option (Entries × List Char)
  | 0, _, _ => none
  | fuel + 1, entries, cs => do
    let (key, rest) ← key? (cs.length + 1) cs
    match rest with
    | '=' :: rest => do
      let (value, rest) ← value? fuel (skipSpace rest)
      let entries ← insert? entries key value
      match skipSpace rest with
      | '\x7d' :: rest => some (entries, rest)
      | ',' :: rest => pairs? fuel entries rest
      | _ => none
    | _ => none

end

/-- A document that is being read: its tables, and the path of the open one. -/
structure Reading where
  root : Entries
  path : List String

def header? (r : Reading) (cs : List Char) : Option (Reading × List Char) :=
  match cs with
  | '[' :: rest => do
    let (path, rest) ← key? (rest.length + 1) rest
    match rest with
    | ']' :: ']' :: rest => do some (⟨← openRow? path r.root, path⟩, rest)
    | _ => none
  | _ => do
    let (path, rest) ← key? (cs.length + 1) cs
    match rest with
    | ']' :: rest => do some (⟨← openTable? path r.root, path⟩, rest)
    | _ => none

def pair? (r : Reading) (cs : List Char) : Option (Reading × List Char) := do
  let (key, rest) ← key? (cs.length + 1) cs
  match rest with
  | '=' :: rest => do
    let (value, rest) ← value? (2 * rest.length + 2) (skipSpace rest)
    some (⟨← modify? (insert? · key value) r.path r.root, r.path⟩, rest)
  | _ => none

def endOfLine? (cs : List Char) : Option (List Char) := do
  let rest ← skipComment? (skipSpace cs)
  if rest.isEmpty then some [] else lineEnd? rest

def lines : Nat → Reading → List Char → Option Entries
  | 0, _, _ => none
  | fuel + 1, r, cs => do
    match ← skipLines? cs.length cs with
    | [] => some r.root
    | '[' :: rest => do
      let (r, rest) ← header? r rest
      lines fuel r (← endOfLine? rest)
    | rest => do
      let (r, rest) ← pair? r rest
      lines fuel r (← endOfLine? rest)

def parse? (text : String) : Option Layer :=
  let cs := match text.toList with
    | '\ufeff' :: rest => rest
    | cs => cs
  (lines (cs.length + 1) ⟨[], []⟩ cs).map layer

end Runbook.Toml

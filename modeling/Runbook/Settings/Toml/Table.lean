import Runbook.Settings.Setting

/-!
# Tables of TOML while they are read

A table can be opened by a header once, and grows by dotted keys only where such keys made it.
-/

namespace Runbook.Toml

inductive Origin where
  /-- As a table on the way to another one's header. -/
  | implied
  | header
  | dotted
  deriving Repr, BEq, DecidableEq

inductive Node where
  | leaf (s : Setting)
  | table (origin : Origin) (entries : List (String × Node))
  /-- The tables under headers in double brackets. -/
  | rows (tables : List (List (String × Node)))
  deriving Inhabited

abbrev Entries := List (String × Node)

def put (name : String) (node : Node) : Entries → Entries
  | [] => [(name, node)]
  | (other, old) :: rest =>
    if other = name then (name, node) :: rest else (other, old) :: put name node rest

/-- Stores a value under a dotted key, which must be new. -/
def insert? (entries : Entries) : List String → Setting → Option Entries
  | [], _ => none
  | [name], value =>
    match entries.lookup name with
    | none => some (put name (.leaf value) entries)
    | some _ => none
  | name :: names, value =>
    match entries.lookup name with
    | none => do some (put name (.table .dotted (← insert? [] names value)) entries)
    | some (.table .dotted inner) => do
      some (put name (.table .dotted (← insert? inner names value)) entries)
    | some (.table .implied inner) =>
      if names.length = 1 then none
      else do some (put name (.table .implied (← insert? inner names value)) entries)
    | some _ => none

/-- Changes the table at the end of a path. Of tables in rows the last one is meant. -/
def modify? (change : Entries → Option Entries) : List String → Entries → Option Entries
  | [], entries => change entries
  | name :: names, entries =>
    match entries.lookup name with
    | none => do some (put name (.table .implied (← modify? change names [])) entries)
    | some (.table origin inner) => do
      some (put name (.table origin (← modify? change names inner)) entries)
    | some (.rows tables) =>
      match tables.getLast? with
      | none => none
      | some last => do
        some (put name (.rows (tables.dropLast ++ [← modify? change names last])) entries)
    | some (.leaf _) => none

def openTable? (path : List String) (entries : Entries) : Option Entries :=
  match path.getLast? with
  | none => none
  | some name =>
    modify? (fun inner =>
      match inner.lookup name with
      | none => some (put name (.table .header []) inner)
      | some (.table .implied old) => some (put name (.table .header old) inner)
      | some _ => none) path.dropLast entries

def openRow? (path : List String) (entries : Entries) : Option Entries :=
  match path.getLast? with
  | none => none
  | some name =>
    modify? (fun inner =>
      match inner.lookup name with
      | none => some (put name (.rows [[]]) inner)
      | some (.rows tables) => some (put name (.rows (tables ++ [[]])) inner)
      | some _ => none) path.dropLast entries

mutual

def Node.setting : Node → Setting
  | .leaf s => s
  | .table _ entries => .table (layer entries)
  | .rows tables => .list (rowSettings tables)

def layer : List (String × Node) → Layer
  | [] => []
  | (name, node) :: rest => (name, node.setting) :: layer rest

def rowSettings : List (List (String × Node)) → List Setting
  | [] => []
  | entries :: rest => .table (layer entries) :: rowSettings rest

end

end Runbook.Toml

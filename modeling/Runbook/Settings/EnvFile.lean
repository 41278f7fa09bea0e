import Runbook.Text.Blank

/-!
# Files that set environment variables, one `NAME=value` a line

A value may be quoted, hold escapes and refer to other variables with `$NAME` or `$` and a name in
braces. From the first malformed line on a file is ignored.
-/

namespace Runbook

abbrev Environment := List (String × String)

namespace EnvFile

/-! ## Lines

A line end inside quotes does not end a line. -/

inductive Mode where
  | plain
  | blank
  | escape
  | weak
  | weakEscape
  | strong
  | strongEscape

def Mode.next? (m : Mode) (c : Char) : Option Mode :=
  let opening : Mode := if c = '\\' then .escape else if c = '"' then .weak
    else if c = '\'' then .strong else .plain
  match m with
  | .plain => some (if Text.isBlank c && c ≠ '\n' && c ≠ '\x0d' then .blank else opening)
  | .blank => if c = '#' then none else some opening
  | .escape => some .plain
  | .weak => some (if c = '\\' then .weakEscape else if c = '"' then .plain else .weak)
  | .weakEscape => some .weak
  | .strong => some (if c = '\\' then .strongEscape else if c = '\'' then .plain else .strong)
  | .strongEscape => some .strong

inductive LineEnd where
  | whole (mode : Mode)
  /-- A comment began; the line counts up to it. -/
  | comment (line : List Char)

def modeAfter : Mode → List Char → LineEnd
  | m, [] => .whole m
  | m, c :: rest =>
    match m.next? c with
    | none => .comment []
    | some m =>
      match modeAfter m rest with
      | .whole m => .whole m
      | .comment line => .comment (c :: line)

def takeLine (cs : List Char) : List Char × List Char :=
  let line := cs.takeWhile (· ≠ '\n')
  match cs.dropWhile (· ≠ '\n') with
  | [] => (line, [])
  | c :: rest => (line ++ [c], rest)

def dropLineEnd (line : List Char) : List Char :=
  match line.reverse with
  | '\n' :: '\x0d' :: rest => rest.reverse
  | '\n' :: rest => rest.reverse
  | _ => line

/-- The next line, with line ends inside quotes, and what follows it. Fails if the text ends inside
quotes. -/
def nextLine? : Nat → List Char → Mode → List Char → Option (List Char × List Char)
  | 0, _, _, _ => none
  | fuel + 1, before, mode, cs =>
    match cs with
    | [] => none
    | _ =>
      let (line, rest) := takeLine cs
      if (Text.trimStart (before ++ line)).head? = some '#' then some ([], rest)
      else
        match modeAfter mode line with
        | .comment front => some (before ++ front, rest)
        | .whole .plain => some (dropLineEnd (before ++ line), rest)
        | .whole mode => nextLine? fuel (before ++ line) mode rest

/-! ## Values -/

inductive Quoting where
  | unquoted
  | weak
  | strong
  deriving BEq, DecidableEq

/-- Where the name of a variable is being read. -/
inductive Reference where
  | none
  | bare (name : List Char)
  | braced (name : List Char)

structure Reading where
  value : List Char := []
  quoting : Quoting := .unquoted
  escaped : Bool := false
  /-- A blank has ended the value; only a comment may follow. -/
  ended : Bool := false
  reference : Reference := .none

/-- The value of a variable: the environment's, else that of an earlier line. -/
def lookup (env earlier : Environment) (name : List Char) : List Char :=
  let name := String.ofList name
  (((env.lookup name).or (earlier.lookup name)).getD "").toList

def escape? : Char → Option Char
  | 'n' => some '\n'
  | c => if c = '\\' || c = '\'' || c = '"' || c = '$' || c = ' ' then some c else none

def isNameChar (c : Char) : Bool := c.isAlphanum

def Reading.plain (r : Reading) (c : Char) : Reading :=
  let push : Reading := { r with value := r.value ++ [c] }
  match r.quoting with
  | .strong => if c = '\'' then { r with quoting := .unquoted } else push
  | .weak =>
    if c = '$' then { r with reference := .bare [] }
    else if c = '"' then { r with quoting := .unquoted }
    else if c = '\\' then { r with escaped := true }
    else push
  | .unquoted =>
    if c = '$' then { r with reference := .bare [] }
    else if c = '\'' then { r with quoting := .strong }
    else if c = '"' then { r with quoting := .weak }
    else if c = '\\' then { r with escaped := true }
    else if c = ' ' || c = '\t' then { r with ended := true }
    else push

def Reading.step? (env earlier : Environment) (r : Reading) (c : Char) : Option Reading :=
  if r.escaped then
    (escape? c).map fun e => { r with value := r.value ++ [e], escaped := false }
  else
    match r.reference with
    | .none => some (r.plain c)
    | .bare name =>
      if isNameChar c then some { r with reference := .bare (name ++ [c]) }
      else if c = '\x7b' && name.isEmpty then some { r with reference := .braced [] }
      else
        let value := r.value ++ lookup env earlier name
        if c = '$' then some { r with value, reference := .bare [] }
        else some { r with value := value ++ [c], reference := .none }
    | .braced name =>
      if c = '\x7d' then
        some { r with value := r.value ++ lookup env earlier name, reference := .none }
      else some { r with reference := .braced (name ++ [c]) }

def value? (env earlier : Environment) : Reading → List Char → Option String
  | r, [] =>
    match r.quoting, r.reference with
    | .unquoted, .none => some (String.ofList r.value)
    | .unquoted, .bare name => some (String.ofList (r.value ++ lookup env earlier name))
    | _, _ => none
  | r, c :: rest =>
    if r.ended then
      if c = ' ' || c = '\t' then value? env earlier r rest
      else if c = '#' then value? env earlier r []
      else none
    else
      match r.step? env earlier c with
      | some r => value? env earlier r rest
      | none => none

/-! ## Variables -/

def name? (cs : List Char) : Option (List Char × List Char) :=
  let isPart (c : Char) : Bool := c.isAlphanum || c = '_' || c = '.'
  match cs with
  | [] => none
  | c :: _ => if c.isAlpha || c = '_' then some (cs.takeWhile isPart, cs.dropWhile isPart) else none

inductive Line where
  | nothing
  | variable (name value : String)
  | malformed

def binding (env earlier : Environment) (name cs : List Char) : Line :=
  match cs with
  | '=' :: rest =>
    match Text.trimStart rest with
    | [] => .variable (String.ofList name) ""
    | '#' :: _ => .variable (String.ofList name) ""
    | rest =>
      match value? env earlier {} rest with
      | some v => .variable (String.ofList name) v
      | none => .malformed
  | _ => .malformed

def readLine (env earlier : Environment) (cs : List Char) : Line :=
  let cs := Text.trimStart (Text.trimEnd cs)
  if cs.isEmpty || cs.head? = some '#' then .nothing
  else
    match name? cs with
    | none => .malformed
    | some (name, rest) =>
      let rest := Text.trimStart rest
      if name = "export".toList && rest.head? ≠ some '=' then
        match name? rest with
        | none => .malformed
        | some (name, rest) => binding env earlier name (Text.trimStart rest)
      else binding env earlier name rest

/-- Sets the variables of the lines that are not set yet. -/
def apply : Nat → Environment → Environment → List Char → Environment
  | 0, env, _, _ => env
  | fuel + 1, env, earlier, cs =>
    match nextLine? (cs.length + 1) [] .plain cs with
    | none => env
    | some (line, rest) =>
      match readLine env earlier line with
      | .malformed => env
      | .nothing => apply fuel env earlier rest
      | .variable name value =>
        let known := (env.lookup name).isSome
        apply fuel (if known then env else env ++ [(name, value)]) ((name, value) :: earlier) rest

end EnvFile

def Environment.withFile (env : Environment) (text : String) : Environment :=
  let cs := match text.toList with
    | '\ufeff' :: rest => rest
    | cs => cs
  EnvFile.apply (cs.length + 1) env [] cs

end Runbook

import Runbook.File.Basic
import Runbook.Json.Reader
import Runbook.Settings.Basic
import Runbook.Settings.EnvFile
import Runbook.Settings.Toml.Document

/-!
# Where settings come from

First the defaults, then a file, then the environment. The file is the one that is asked for,
which must be there, or else the default file, which need not.
-/

namespace Runbook

/-! ## Files -/

mutual

def Setting.ofJson : Json → Setting
  | .null => .nil
  | .bool v => .bool v
  | .whole n => if Setting.fitsInt n then .int n else .float (Number.nearest n.natAbs 0)
  | .real x => .float x
  | .str v => .str v
  | .arr items => .list (Setting.ofJsonList items)
  | .obj fields => .table (Layer.ofJson fields)

def Setting.ofJsonList : List Json → List Setting
  | [] => []
  | v :: rest => Setting.ofJson v :: Setting.ofJsonList rest

def Layer.ofJson : List (String × Json) → List (String × Setting)
  | [] => []
  | (name, v) :: rest => (name, Setting.ofJson v) :: Layer.ofJson rest

end

inductive SettingsFormat where
  | toml
  | json
  deriving Repr, BEq, DecidableEq

namespace SettingsFormat

def ofExtension? : String → Option SettingsFormat
  | "toml" => some toml
  | "json" => some json
  | _ => none

def parse? : SettingsFormat → String → Option Layer
  | toml, text => Toml.parse? text
  | json, text =>
    match Json.parse? text with
    | some (.obj fields) => some (Layer.ofJson fields)
    | _ => none

end SettingsFormat

/-- The part of a file name after its last dot, unless the dot begins the name. -/
def Path.extension (path : String) : String :=
  let name := (path.toList.reverse.takeWhile (· ≠ '/')).reverse
  let after := (name.reverse.takeWhile (· ≠ '.')).reverse
  if after.length + 1 < name.length then String.ofList after else ""

namespace Settings

inductive Found where
  | missing
  | unreadable
  | file (text : String) (format : Option SettingsFormat)

def find (files : FileSystem) (path : String) : Found :=
  match files.read path with
  | .ok text => .file text (SettingsFormat.ofExtension? (Path.extension path))
  | .error .notText => .unreadable
  | .error _ => .missing

def findFirst (files : FileSystem) : List String → Found
  | [] => .missing
  | path :: paths =>
    match find files path with
    | .missing => findFirst files paths
    | found => found

/-- The paths that a name of a settings file may stand for. -/
def candidates (name : String) : List String := [name, name ++ ".toml", name ++ ".json"]

/-- The settings of a file. A file that must be there fails if it cannot be found and read; a
malformed one always fails. -/
def fileLayer? (files : FileSystem) (name : String) (required : Bool) : Option Layer :=
  match findFirst files (candidates name) with
  | .file text (some format) => format.parse? text
  | _ => if required then none else some []

/-! ## The environment -/

/-- The settings of the variables whose names have the given beginning. Case does not count. -/
def environmentLayer (beginning : String) (env : Environment) : Layer :=
  env.filterMap fun (name, value) =>
    let name := name.toLower
    if name.startsWith beginning then
      some ((name.drop beginning.length).toString, Setting.ofWord value)
    else none

/-! ## All together -/

def defaultFile : String := "mdscript"

def variableBeginning : String := "mdscript_"

def load? (files : FileSystem) (env : Environment) (path : Option String) : Option Settings := do
  let file ← match path with
    | some path => fileLayer? files path true
    | none => fileLayer? files defaultFile false
  let environment := environmentLayer variableBeginning env
  ofLayer? ((defaults.merge file).merge environment)

end Settings

end Runbook

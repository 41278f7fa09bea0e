import Runbook.Command.Arguments

/-!
# Help

A heading, the usage, and a table for each kind of thing that may be given.
-/

namespace Runbook.Command

/-! ## Tables -/

structure HelpRow where
  label : String
  about : String

/-- The columns that a line of help may fill. -/
def helpWidth : Nat := 100

def aboutColumn (rows : List HelpRow) : Nat :=
  (rows.map (·.label.length)).foldl max 0 + 4

def fitsBeside (rows : List HelpRow) : Bool :=
  rows.all fun r => aboutColumn rows + r.about.length ≤ helpWidth

def spaces (n : Nat) : String := String.ofList (List.replicate n ' ')

/-- The texts stand beside the labels if all of them fit there, else below. -/
def helpTable (title : String) (rows : List HelpRow) : String :=
  let row (r : HelpRow) : String :=
    if fitsBeside rows then
      spaces 2 ++ r.label ++ spaces (aboutColumn rows - 2 - r.label.length) ++ r.about ++ "\n"
    else spaces 2 ++ r.label ++ "\n" ++ spaces 10 ++ r.about ++ "\n"
  title ++ ":\n" ++ String.join (rows.map row)

/-! ## Topics -/

def OptionSpec.helpRow (o : OptionSpec) : HelpRow where
  label :=
    (match o.short with
      | some c => String.ofList ['-', c] ++ ", "
      | none => spaces 4) ++
    "--" ++ o.long ++ (if o.valueName.isEmpty then "" else " <" ++ o.valueName ++ ">")
  about := o.about

def optionTable (specs : List OptionSpec) : String := helpTable "Options" (specs.map (·.helpRow))

def Topic.about : Topic → String
  | .command => "mdscript - run markdown documents as programs"
  | .run => "Run a function of a program"
  | .check => "Parse a program and list its functions"
  | .help => "Print this message or the help of the given subcommand(s)"

def Topic.usage : Topic → String
  | .command => "mdscript [OPTIONS] <COMMAND>"
  | .run => "mdscript run [OPTIONS] <FILE>"
  | .check => "mdscript check [OPTIONS] <FILE>"
  | .help => "mdscript help [COMMAND]..."

def fileTable : String := helpTable "Arguments" [⟨"<FILE>", "Program file"⟩]

def Topic.tables : Topic → List String
  | .command =>
    [helpTable "Commands"
      [⟨"run", Topic.run.about⟩, ⟨"check", Topic.check.about⟩, ⟨"help", Topic.help.about⟩],
     optionTable commonOptions]
  | .run => [fileTable, optionTable runOptions]
  | .check => [fileTable, optionTable checkOptions]
  | .help => [helpTable "Arguments" [⟨"[COMMAND]...", "Print help for the subcommand(s)"⟩]]

def Topic.text (t : Topic) : String :=
  "\n".intercalate ([t.about ++ "\n", "Usage: " ++ t.usage ++ "\n"] ++ t.tables)

end Runbook.Command

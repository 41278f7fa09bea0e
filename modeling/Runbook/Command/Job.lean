import Runbook.Command.Help
import Runbook.Json.Reader
import Runbook.Json.Writer
import Runbook.Machine.Run
import Runbook.Program.ToJson
import Runbook.Settings.Load
import Runbook.Value.Json

/-! # What the command line does: it checks a program or runs it -/

namespace Runbook.Command

structure Output where
  exit : Nat := 0
  stdout : String := ""
  stderr : String := ""
  deriving Repr, BEq, DecidableEq

inductive Job where
  | check (program : Program) (json : Bool)
  | run (program : Program) (options : RunOptions) (inputs : List Value) (interactive json : Bool)

/-! ## Failures -/

def failureLine (reasons : List String) : String := "Error: " ++ ": ".intercalate reasons ++ "\n"

def reasons (e : Error) : List String :=
  match e with
  | .programNotFound _ cause => [e.message, cause.message]
  | _ => [e.message]

/-- A run that fails is reported with its error, and then the error with its reasons. -/
def runReasons (e : Error) : List String := e.message :: reasons e

/-! ## Preparing -/

/-- The value of an argument: a JSON scalar, else the text itself. -/
def argument (s : String) : Value :=
  ((Json.parse? s).bind Value.ofJson?).getD (.str s)

/-- The options of a run: what the command line does not say comes from the settings. -/
def runOptionsOf (settings : Settings) (library : Library) (t : RunTask) : RunOptions where
  entry := t.entry.getD settings.entry
  args := t.args.map argument
  limits :=
    { maxCallDepth := t.maxCallDepth.getD settings.limits.maxCallDepth
      tailCalls := settings.limits.tailCalls && !t.noTailCalls }
  library := library

def load (files : FileSystem) (file : String) : Except (List String) Loaded :=
  match Library.empty.loadPath files file with
  | .ok loaded => .ok loaded
  | .error e => .error (("Failed to load " ++ file) :: reasons e)

def environmentFile : String := ".env"

def environment (files : FileSystem) (env : Environment) : Environment :=
  match files.read environmentFile with
  | .ok text => env.withFile text
  | .error _ => env

/-- Loads the settings and the program of a task, in this order. -/
def prepare (files : FileSystem) (env : Environment) (i : Invocation) : Except (List String) Job :=
  match Settings.load? files (environment files env) i.config with
  | none => .error ["Failed to load configuration"]
  | some settings =>
    match i.task with
    | .check file json => do
      let loaded ← load files file
      .ok (.check loaded.program json)
    | .run t => do
      let loaded ← load files t.file
      let options := runOptionsOf settings loaded.library t
      .ok (.run loaded.program options (t.inputs.map .str) t.interactive t.json)

/-! ## Checking -/

def summary (f : Function) : String :=
  f.name ++ "(" ++ ", ".intercalate f.params ++ ") - " ++ toString f.body.length ++
    " statement(s)\n"

def checkOutput (program : Program) (json : Bool) : Output :=
  if json then { stdout := program.toJson.pretty ++ "\n" }
  else { stdout := String.join (program.sorted.map summary) }

/-! ## Running -/

def printedLines (vs : List Value) : String := String.join (vs.map fun v => v.display ++ "\n")

def printedJson (vs : List Value) : String := (Json.arr (vs.map Value.toJson)).compact ++ "\n"

def printedText (json : Bool) (vs : List Value) : String :=
  if json then printedJson vs else printedLines vs

def prompt (name : String) : String := name ++ "> "

def prompts (events : List Machine.Event) : String :=
  String.join (events.map fun
    | .asked name => prompt name
    | .printed _ => "")

def inputLines (text : String) : List Value :=
  let pieces := Text.splitOn '\n' text.toList
  let dropReturn (line : List Char) : List Char :=
    if line.getLast? = some '\x0d' then line.dropLast else line
  let last := pieces.getLast?.getD []
  let whole := pieces.dropLast.map dropReturn
  (if last.isEmpty then whole else whole ++ [last]).map fun line => .str (String.ofList line)

def sessionOutput (json : Bool) (s : Machine.Session) : Output :=
  let stdout := printedText json s.machine.printed.toList
  let stderr := prompts s.events
  match s.result with
  | .ok _ => { stdout, stderr }
  | .error e => { exit := 1, stdout, stderr := stderr ++ failureLine (runReasons e) }

def unstartedOutput (json : Bool) (e : Error) : Output :=
  { exit := 1, stdout := printedText json [], stderr := failureLine (runReasons e) }

/-- Does a job. None if the fuel does not last. -/
def Job.output (files : FileSystem) (fuel : Nat) (stdin : String) : Job → Option Output
  | .check program json => some (checkOutput program json)
  | .run program options inputs interactive json =>
    let started :=
      if interactive then program.stream files fuel options inputs (inputLines stdin)
      else program.run files fuel options (.buffered inputs)
    match started with
    | .error e => some (unstartedOutput json e)
    | .ok session => session.map (sessionOutput json)

/-! ## The whole command -/

def refusalOutput : Refusal → Output
  | .help topic => { stdout := topic.text }
  | .usage => { exit := 2, stderr := "Usage: " ++ Topic.command.usage ++ "\n" }

def execute (files : FileSystem) (env : Environment) (fuel : Nat) (stdin : String)
    (args : List String) : Option Output :=
  match parse args with
  | .error r => some (refusalOutput r)
  | .ok i =>
    match prepare files env i with
    | .error rs => some { exit := 1, stderr := failureLine rs }
    | .ok job => job.output files fuel stdin

end Runbook.Command

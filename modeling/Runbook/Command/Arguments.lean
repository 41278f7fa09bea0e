import Runbook.Settings.Setting

/-! # The arguments of the command line -/

namespace Runbook.Command

inductive Topic where
  | command
  | run
  | check
  | help
  deriving Repr, BEq, DecidableEq

/-- Why the arguments name no task. -/
inductive Refusal where
  | help (topic : Topic)
  | usage
  deriving Repr, BEq, DecidableEq

structure RunTask where
  file : String
  entry : Option String := none
  args : List String := []
  inputs : List String := []
  interactive : Bool := false
  json : Bool := false
  maxCallDepth : Option Nat := none
  noTailCalls : Bool := false
  deriving Repr, BEq, DecidableEq

inductive Task where
  | run (t : RunTask)
  | check (file : String) (json : Bool)
  deriving Repr, BEq, DecidableEq

structure Invocation where
  config : Option String
  task : Task
  deriving Repr, BEq, DecidableEq

/-! ## Options -/

inductive OptionKind where
  | flag
  | single
  | repeated
  | help
  deriving Repr, BEq, DecidableEq

structure OptionSpec where
  long : String
  short : Option Char := none
  kind : OptionKind
  valueName : String := ""
  about : String

def configOption : OptionSpec where
  long := "config"
  kind := .single
  valueName := "CONFIG"
  about := "Path to config file (overrides default search)"

def helpOption : OptionSpec where
  long := "help"
  short := 'h'
  kind := .help
  about := "Print help"

def entryOption : OptionSpec where
  long := "entry"
  short := 'e'
  kind := .single
  valueName := "ENTRY"
  about := "Function to start in (default from settings, normally \"main\")"

def argOption : OptionSpec where
  long := "arg"
  short := 'a'
  kind := .repeated
  valueName := "ARGS"
  about := "Argument for the entry function; JSON scalars keep their type, " ++
    "anything else is a string"

def inputOption : OptionSpec where
  long := "input"
  short := 'i'
  kind := .repeated
  valueName := "INPUTS"
  about := "Value for the next input read, as a string"

def depthOption : OptionSpec where
  long := "max-call-depth"
  kind := .single
  valueName := "MAX_CALL_DEPTH"
  about := "Largest number of nested calls"

def commonOptions : List OptionSpec := [configOption, helpOption]

def runOptions : List OptionSpec :=
  [configOption, entryOption, argOption, inputOption,
   { long := "interactive", kind := .flag, about := "Read each input from stdin as it is needed" },
   { long := "json", kind := .flag,
     about := "Print the output as one JSON array once the run ends" },
   depthOption,
   { long := "no-tail-calls", kind := .flag,
     about := "Give every call its own frame, even in tail position" },
   helpOption]

def checkOptions : List OptionSpec :=
  [configOption,
   { long := "json", kind := .flag, about := "Print the parsed program as JSON" },
   helpOption]

inductive Token where
  | flag (name : String)
  | option (name value : String)
  | positional (value : String)
  deriving Repr, BEq, DecidableEq

/-- An argument that is read as options: it has a dash before something else. -/
def isOption (arg : String) : Bool := arg.startsWith "-" && arg ≠ "-"

/-- The option at the front of an argument, and the value attached to it. What follows the short
form of a call for help does not matter. -/
def optionOf? (specs : List OptionSpec) (arg : String) : Option (OptionSpec × Option String) :=
  match arg.toList with
  | '-' :: '-' :: cs => do
    let spec ← specs.find? (·.long.toList == cs.takeWhile (· ≠ '='))
    match cs.dropWhile (· ≠ '=') with
    | [] => some (spec, none)
    | _ :: value => some (spec, some (String.ofList value))
  | '-' :: c :: cs => do
    let spec ← specs.find? (·.short == some c)
    if spec.kind = .help then some (spec, none)
    else
      match cs with
      | [] => some (spec, none)
      | '=' :: value => some (spec, some (String.ofList value))
      | value => some (spec, some (String.ofList value))
  | _ => none

/-- Reads the arguments of a topic as options and positional values. After `--` all are positional.
An option without an attached value takes the next argument for it, unless that is an option too. -/
def tokens (topic : Topic) (specs : List OptionSpec) : List String → Except Refusal (List Token)
  | [] => .ok []
  | arg :: rest =>
    if arg = "--" then .ok (rest.map .positional)
    else if !isOption arg then do .ok (.positional arg :: (← tokens topic specs rest))
    else
      match optionOf? specs arg with
      | none => .error .usage
      | some (spec, attached) =>
        match spec.kind, attached with
        | .help, none => .error (.help topic)
        | .help, some _ => .error .usage
        | .flag, none => do .ok (.flag spec.long :: (← tokens topic specs rest))
        | .flag, some _ => .error .usage
        | _, some value => do .ok (.option spec.long value :: (← tokens topic specs rest))
        | _, none =>
          match rest with
          | [] => .error .usage
          | value :: rest =>
            if isOption value then .error .usage
            else do .ok (.option spec.long value :: (← tokens topic specs rest))

/-! ## What the options say -/

def values (name : String) (ts : List Token) : List String :=
  ts.filterMap fun
    | .option n v => if n = name then some v else none
    | _ => none

def single (name : String) (ts : List Token) : Except Refusal (Option String) :=
  match values name ts with
  | [] => .ok none
  | [v] => .ok (some v)
  | _ => .error .usage

def flag (name : String) (ts : List Token) : Except Refusal Bool :=
  match ts.count (.flag name) with
  | 0 => .ok false
  | 1 => .ok true
  | _ => .error .usage

def file (ts : List Token) : Except Refusal String :=
  let paths := ts.filterMap fun
    | .positional v => some v
    | _ => none
  match paths with
  | [path] => if path.isEmpty then .error .usage else .ok path
  | _ => .error .usage

/-- The path given by an option, which is not empty. -/
def path (name : String) (ts : List Token) : Except Refusal (Option String) := do
  match ← single name ts with
  | some "" => .error .usage
  | v => .ok v

def count (name : String) (ts : List Token) : Except Refusal (Option Nat) := do
  match ← single name ts with
  | none => .ok none
  | some v =>
    match Setting.digitsCount? v with
    | some n => .ok (some n)
    | none => .error .usage

def runTask (ts : List Token) : Except Refusal Task := do
  let file ← file ts
  let entry ← single "entry" ts
  let interactive ← flag "interactive" ts
  let json ← flag "json" ts
  let maxCallDepth ← count "max-call-depth" ts
  let noTailCalls ← flag "no-tail-calls" ts
  let args := values "arg" ts
  let inputs := values "input" ts
  .ok (.run { file, entry, args, inputs, interactive, json, maxCallDepth, noTailCalls })

def checkTask (ts : List Token) : Except Refusal Task := do
  .ok (.check (← file ts) (← flag "json" ts))

/-- Reads a task's own arguments. Its settings file goes before one that is given for all tasks. -/
def invocation (config : Option String) (topic : Topic) (specs : List OptionSpec)
    (task : List Token → Except Refusal Task) (args : List String) : Except Refusal Invocation := do
  let ts ← tokens topic specs args
  let own ← path "config" ts
  .ok ⟨own.or config, ← task ts⟩

def helpRequest : List String → Refusal
  | [] => .help .command
  | ["run"] => .help .run
  | ["check"] => .help .check
  | ["help"] => .help .help
  | _ => .usage

def parseFrom (config : Option String) : List String → Except Refusal Invocation
  | [] => .error .usage
  | arg :: rest =>
    if arg = "run" then invocation config .run runOptions runTask rest
    else if arg = "check" then invocation config .check checkOptions checkTask rest
    else if arg = "help" then .error (helpRequest rest)
    else if !isOption arg then .error .usage
    else
      match optionOf? commonOptions arg with
      | none => .error .usage
      | some (spec, attached) =>
        match spec.kind, attached, config with
        | .help, none, _ => .error (.help .command)
        | .single, some value, none =>
          if value.isEmpty then .error .usage else parseFrom value rest
        | .single, none, none =>
          match rest with
          | [] => .error .usage
          | value :: rest =>
            if isOption value || value.isEmpty then .error .usage else parseFrom value rest
        | _, _, _ => .error .usage

def parse (args : List String) : Except Refusal Invocation := parseFrom none args

end Runbook.Command

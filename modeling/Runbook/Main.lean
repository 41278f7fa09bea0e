import Runbook.Command.Job
import Runbook.File.Snapshot
import Runbook.Program.References

/-!
# The command line

The files that a command can need are read first; then the program runs step by step, and what it
prints is written as it comes.
-/

namespace Runbook.Main

/-! ## Files -/

/-- Whether an error has a number, which some calls give with a minus sign. -/
def hasCode (code number : UInt32) : Bool := code = number || code = 0 - number

def fileError : IO.Error → FileError
  | .inappropriateType _ code _ => if hasCode code 21 then .isADirectory else .notADirectory
  | .invalidArgument _ code _ => if hasCode code 36 then .nameTooLong else .notFound
  | _ => .notFound

def readText (path : String) : IO (Except FileError String) := do
  try
    match String.fromUTF8? (← IO.FS.readBinFile path) with
    | some text => return .ok text
    | none => return .error .notText
  catch e => return .error (fileError e)

def canonicalPath (path : String) : IO (Except FileError String) := do
  if path.contains '\x00' then return .error .nulInName
  try
    return .ok (← IO.FS.realPath path).toString
  catch e =>
    match ← readText path with
    | .ok _ => return .error (fileError e)
    | .error reason => return .error reason

/-- Reads the programs at some paths and all that they lead to. -/
partial def gather (s : Snapshot) : List String → IO Snapshot
  | [] => return s
  | path :: pending => do
    if s.knowsPath path then gather s pending
    else
      let answer ← canonicalPath path
      let s := s.addCanonical path answer
      match answer with
      | .error _ => gather s pending
      | .ok key =>
        if s.knowsText key then gather s pending
        else
          let text ← readText key
          let more := match text with
            | .ok text => referencesOf key text
            | .error _ => []
          gather (s.addText key text) (more ++ pending)

def filesFor (i : Command.Invocation) : IO FileSystem := do
  let program := match i.task with
    | .run t => t.file
    | .check file _ => file
  let settings := Settings.candidates (i.config.getD Settings.defaultFile)
  let mut s : Snapshot := {}
  for path in Command.environmentFile :: settings do
    s := s.addText path (← readText path)
  return (← gather s [program]).system

def environment : IO Environment := do
  match ← readText "/proc/self/environ" with
  | .error _ => return []
  | .ok text =>
    return (Text.splitOn '\x00' text.toList).filterMap fun entry =>
      match entry.dropWhile (· ≠ '=') with
      | [] => none
      | _ :: value => some (String.ofList (entry.takeWhile (· ≠ '=')), String.ofList value)

/-! ## Runs -/

def ask (name : String) : IO Value := do
  IO.eprint (Command.prompt name)
  try
    let line ← (← IO.getStdin).getLine
    return (Command.inputLines line).headD .null
  catch _ => return .null

partial def drive (files : FileSystem) (live : Bool) (m : Machine) :
    IO (Except Error Unit × Machine) := do
  let (result, next) := m.step files
  if live then
    let added := next.printed.extract m.printed.size next.printed.size
    IO.print (Command.printedLines added.toList)
    (← IO.getStdout).flush
  match result with
  | .error e => return (.error e, next)
  | .ok .done => return (.ok (), next)
  | .ok .running => drive files live next
  | .ok (.suspended name) =>
    match next.provide (← ask name) with
    | .error e => return (.error e, next)
    | .ok resumed => drive files live resumed

def fail (reasons : List String) : IO UInt32 := do
  IO.eprint (Command.failureLine reasons)
  return 1

def write (o : Command.Output) : IO UInt32 := do
  IO.print o.stdout
  IO.eprint o.stderr
  return UInt32.ofNat o.exit

def perform (files : FileSystem) : Command.Job → IO UInt32
  | .check program json => write (Command.checkOutput program json)
  | .run program options inputs interactive json => do
    match program.machine options (.buffered inputs) with
    | .error e => write (Command.unstartedOutput json e)
    | .ok m =>
      let (result, m) ← drive files (!json) (if interactive then m.interactive else m)
      if json then IO.print (Command.printedJson m.printed.toList)
      match result with
      | .ok _ => return 0
      | .error e => fail (Command.runReasons e)

end Runbook.Main

def main (args : List String) : IO UInt32 := do
  match Runbook.Command.parse args with
  | .error r => Runbook.Main.write (Runbook.Command.refusalOutput r)
  | .ok i =>
    let files ← Runbook.Main.filesFor i
    match Runbook.Command.prepare files (← Runbook.Main.environment) i with
    | .error reasons => Runbook.Main.fail reasons
    | .ok job => Runbook.Main.perform files job

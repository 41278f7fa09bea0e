import Runbook.Machine.Basic

/-! # Steps and runs of the machine -/

namespace Runbook

namespace Machine

/-- One step: a waiting machine stays as it is, a call whose body has run out returns, and otherwise
the next statement runs. -/
def step (files : FileSystem) (m : Machine) : Outcome :=
  match m.waiting with
  | some name => (.ok (.suspended name), m)
  | none =>
    match m.frames with
    | [] => (.ok .done, m)
    | f :: below =>
      match Cursor.next? f.function.body f.cursor with
      | none => (.ok .running, { m with frames := below })
      | some (s, cursor) =>
        let f := { f with cursor := cursor }
        { m with frames := f :: below }.execute files s f.atTail

/-- Steps until the machine is done, waits or fails. None if the fuel does not last. -/
def runUntilSuspended (files : FileSystem) : Nat → Machine → Option Outcome
  | 0, _ => none
  | fuel + 1, m =>
    match m.step files with
    | (.ok .running, m) => runUntilSuspended files fuel m
    | outcome => some outcome

/-- Steps until the machine is done; to wait is to fail. -/
def runUntilDone (files : FileSystem) (fuel : Nat) (m : Machine) :
    Option (Except Error Unit × Machine) :=
  (m.runUntilSuspended files fuel).map fun (result, m) =>
    match result with
    | .error e => (.error e, m)
    | .ok (.suspended name) => (.error (.inputRequired name), m)
    | .ok _ => (.ok (), m)

inductive Event where
  | printed (v : Value)
  | asked (name : String)

structure Session where
  result : Except Error Unit
  machine : Machine
  events : List Event

def printedSince (m : Machine) (before : Nat) : List Event :=
  (m.printed.toList.drop before).map .printed

def runAlone (files : FileSystem) (fuel : Nat) (m : Machine) : Option Session :=
  (m.runUntilDone files fuel).map fun (result, stopped) =>
    ⟨result, stopped, stopped.printedSince m.printed.size⟩

/-- Runs a machine to its end, answering each request with the next value, or null after the
last. -/
def runAnswering (files : FileSystem) : Nat → Machine → List Value → Option Session
  | 0, _, _ => none
  | fuel + 1, m, answers =>
    match m.runUntilSuspended files fuel with
    | none => none
    | some (result, stopped) =>
      let events := stopped.printedSince m.printed.size
      match result with
      | .error e => some ⟨.error e, stopped, events⟩
      | .ok (.suspended name) =>
        match stopped.provide (answers.headD .null) with
        | .error e => some ⟨.error e, stopped, events ++ [.asked name]⟩
        | .ok resumed =>
          (runAnswering files fuel resumed answers.tail).map fun s =>
            { s with events := events ++ .asked name :: s.events }
      | .ok _ => some ⟨.ok (), stopped, events⟩

end Machine

structure RunOptions where
  entry : String := "main"
  args : List Value := []
  limits : Limits := {}
  library : Library := .empty

inductive Discipline where
  | buffered (inputs : List Value)
  | answering (answers : List Value)

namespace Program

def machine (p : Program) (o : RunOptions) (input : Input) : Except Error Machine := do
  let m ← Machine.start p o.entry o.args
  .ok { m with limits := o.limits, library := o.library, input := input }

/-- Runs a program, answering each request with the next value, or null after the last. The values
put ready for a run that asks for nothing are not read. -/
def stream (p : Program) (files : FileSystem) (fuel : Nat) (o : RunOptions)
    (inputs answers : List Value) : Except Error (Option Machine.Session) := do
  .ok ((← p.machine o (.buffered inputs)).interactive.runAnswering files fuel answers)

def run (p : Program) (files : FileSystem) (fuel : Nat) (o : RunOptions) (d : Discipline) :
    Except Error (Option Machine.Session) :=
  match d with
  | .buffered inputs => do
    .ok ((← p.machine o (.buffered inputs)).runAlone files fuel)
  | .answering answers => p.stream files fuel o [] answers

end Program

end Runbook

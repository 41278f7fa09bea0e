import Runbook.Library
import Runbook.Machine.Frame

/-! # The machine that runs programs, and what one statement does to it -/

namespace Runbook

structure Limits where
  maxCallDepth : Nat := 10000
  /-- Whether a call that nothing follows takes the place of its caller. -/
  tailCalls : Bool := true
  deriving Repr, BEq, DecidableEq

inductive Input where
  /-- Values read one after another; after the last one null is read. -/
  | buffered (values : List Value)
  | interactive

structure Machine where
  frames : List Frame
  /-- The variable that the machine waits to fill, if it waits. -/
  waiting : Option String := none
  printed : Array Value := #[]
  limits : Limits := {}
  input : Input := .buffered []
  library : Library := .empty

inductive Progress where
  | running
  | suspended (name : String)
  | done
  deriving Repr, BEq, DecidableEq

namespace Machine

def start (program : Program) (entry : String) (args : List Value) : Except Error Machine :=
  match program.find? entry with
  | some f => .ok { frames := [.start program f args] }
  | none => .error (.unknownEntry entry)

def isDone (m : Machine) : Bool := m.frames.isEmpty

def emit (m : Machine) (v : Value) : Machine := { m with printed := m.printed.push v }

def setFrame (m : Machine) (f : Frame) : Machine :=
  match m.frames with
  | [] => m
  | _ :: below => { m with frames := f :: below }

def store (m : Machine) (name : String) (v : Value) : Machine :=
  match m.frames with
  | [] => m
  | f :: below => { m with frames := f.set name v :: below }

/-- Has each read ask for its value, whatever values were put ready. -/
def interactive (m : Machine) : Machine := { m with input := .interactive }

def provide (m : Machine) (v : Value) : Except Error Machine :=
  match m.waiting, m.frames with
  | some name, _ :: _ => .ok { m.store name v with waiting := none }
  | _, _ => .error .unexpectedInput

inductive CallKind where
  | tail
  | nested
  deriving Repr, BEq, DecidableEq

def pushCall (m : Machine) (f : Frame) : CallKind → Except Error Machine
  | .tail => .ok { m with frames := f :: m.frames.tail }
  | .nested =>
    if m.limits.maxCallDepth ≤ m.frames.length then
      .error (.callDepthExceeded f.function.name m.limits.maxCallDepth)
    else .ok { m with frames := f :: m.frames }

/-! ## Statements

Each of these runs one statement in the innermost frame, whose cursor has already moved past it. A
statement that fails leaves the machine as it is, except that a program it loaded stays loaded. -/

abbrev Outcome := Except Error Progress × Machine

def print (m : Machine) (e : Expr) : Outcome :=
  match m.frames with
  | [] => (.ok .done, m)
  | f :: _ =>
    match f.eval e with
    | .error err => (.error (.evaluation err), m)
    | .ok v => (.ok .running, m.emit v)

/-- The value an update starts from. A variable without a value starts from zero, or from the empty
text if a text is added. -/
def updateBase (current new : Value) : Value :=
  match current with
  | .undefined => if new.isStr then .str "" else .num 0
  | v => v

def assign (m : Machine) (name : String) (op : Option UpdateOp) (value : Expr) : Outcome :=
  match m.frames with
  | [] => (.ok .done, m)
  | f :: _ =>
    match f.eval value with
    | .error err => (.error (.evaluation err), m)
    | .ok v =>
      let v := match op with
        | none => v
        | some op => op.binary.apply (updateBase (f.get name) v) v
      (.ok .running, m.store name v)

def guard (m : Machine) (test : Expr) : Outcome :=
  match m.frames with
  | [] => (.ok .done, m)
  | f :: _ =>
    match f.eval test with
    | .error err => (.error (.evaluation err), m)
    | .ok v => (.ok .running, if v.isTruthy then m.setFrame f.enter else m)

def leave (m : Machine) : Outcome := (.ok .running, { m with frames := m.frames.tail })

def ask (m : Machine) (name : String) : Outcome :=
  match m.input with
  | .buffered [] => (.ok .running, m.store name .null)
  | .buffered (v :: values) => (.ok .running, { m with input := .buffered values }.store name v)
  | .interactive => (.ok (.suspended name), { m with waiting := some name })

def programOf (files : FileSystem) (m : Machine) (caller : Frame) (file : Option String) :
    Except Error (Program × Machine) :=
  match file with
  | none => .ok (caller.program, m)
  | some path =>
    match m.library.load files caller.program.baseDir path with
    | .error e => .error e
    | .ok loaded => .ok (loaded.program, { m with library := loaded.library })

def unknownCallee (caller : Frame) (function : String) : Option String → Error
  | none => .unknownFunction function
  | some path => .unknownExternalFunction function (Path.join caller.program.baseDir path)

/-- Calls a function with arguments evaluated in the caller. `tail` says that nothing follows the
call. -/
def call (files : FileSystem) (m : Machine) (function : String) (file : Option String)
    (args : List Expr) (tail : Bool) : Outcome :=
  match m.frames with
  | [] => (.ok .done, m)
  | caller :: _ =>
    match args.mapM caller.eval with
    | .error err => (.error (.evaluation err), m)
    | .ok values =>
      match programOf files m caller file with
      | .error e => (.error e, m)
      | .ok (program, m) =>
        match program.find? function with
        | none => (.error (unknownCallee caller function file), m)
        | some f =>
          let kind := if tail && m.limits.tailCalls then CallKind.tail else .nested
          match m.pushCall (.start program f values) kind with
          | .error e => (.error e, m)
          | .ok m => (.ok .running, m)

def execute (files : FileSystem) (m : Machine) (s : Statement) (tail : Bool) : Outcome :=
  match s with
  | .print e => m.print e
  | .assign name op value => m.assign name op value
  | .guard test _ => m.guard test
  | .leave => m.leave
  | .ask name => m.ask name
  | .call function file args => m.call files function file args tail

end Machine

end Runbook

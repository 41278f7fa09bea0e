import Runbook.Document.Build
import Runbook.Program.Item

/-! # Reading a document as a program, item by item -/

namespace Runbook

structure OpenGuard where
  test : Expr
  body : List Statement

structure Draft where
  name : String
  params : List String
  body : List Statement
  /-- The open guards, the innermost first. -/
  guards : List OpenGuard

namespace Draft

def start (name : String) : Draft := ⟨name, [], [], []⟩

def push (d : Draft) (s : Statement) : Draft :=
  match d.guards with
  | [] => { d with body := d.body ++ [s] }
  | g :: outer => { d with guards := { g with body := g.body ++ [s] } :: outer }

def openGuard (d : Draft) (test : Expr) : Draft := { d with guards := ⟨test, []⟩ :: d.guards }

/-- A body with the guards inside it closed. Each guard is the last statement of the next outer
body; the innermost ends with the given statements. -/
def enclose (body : List Statement) (last : List Statement) : List OpenGuard → List Statement
  | [] => body ++ last
  | g :: outer => enclose body [.guard g.test (g.body ++ last)] outer

def closeGuards (d : Draft) : Draft := { d with body := enclose d.body [] d.guards, guards := [] }

def finish (d : Draft) : Function := ⟨d.name, d.params, enclose d.body [] d.guards⟩

end Draft

structure Outline where
  program : Program
  current : Option Draft

namespace Outline

def finish (o : Outline) : Program :=
  match o.current with
  | some d => o.program.declare d.finish
  | none => o.program

/-- Changes the current function; outside any function there is nothing to change. -/
def update (o : Outline) (f : Draft → Draft) : Outline := { o with current := o.current.map f }

def add (o : Outline) : Item → Outline
  | .function name => ⟨o.finish, some (.start name)⟩
  | .params names => o.update fun d => { d with params := d.params ++ names }
  | .guard test => o.update (·.openGuard test)
  | .statement s => o.update (·.push s)
  | .leave => o.update fun d => (d.push .leave).closeGuards
  | .nothing => o

end Outline

namespace Program

def ofItems (baseDir : String) (items : List Item) : Program :=
  (items.foldl Outline.add ⟨.empty baseDir, none⟩).finish

/-- Reads a document as a program; fails only on a malformed expression. -/
def ofDocument (document : Document) (baseDir : String) : Except SyntaxError Program := do
  .ok (ofItems baseDir (← document.blocks.mapM Item.ofBlock))

def parse (source baseDir : String) : Except SyntaxError Program :=
  ofDocument (Document.parse source) baseDir

end Program

end Runbook

import Runbook.Expr.Eval
import Runbook.Machine.Bindings
import Runbook.Machine.Cursor

/-!
# One call in progress

It sees its own variables only.
-/

namespace Runbook

structure Frame where
  /-- The program that the function belongs to and that its calls refer to. -/
  program : Program
  function : Function
  vars : Bindings
  cursor : Cursor

namespace Frame

def start (program : Program) (function : Function) (args : List Value) : Frame :=
  ⟨program, function, Bindings.empty.ofArgs function.params args, [0]⟩

def get (f : Frame) (name : String) : Value := f.vars.get name

def set (f : Frame) (name : String) (v : Value) : Frame :=
  { f with vars := f.vars.set name v }

def eval (f : Frame) (e : Expr) : Except EvalError Value := e.eval f.get

def block (f : Frame) (depth : Nat) : List Statement :=
  Cursor.block f.function.body (f.cursor.take depth)

def enter (f : Frame) : Frame := { f with cursor := f.cursor ++ [0] }

def atTail (f : Frame) : Bool := Cursor.atTail f.function.body f.cursor

end Frame

end Runbook

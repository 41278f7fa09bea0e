import Runbook.Expr.Eval
import Runbook.Expr.Parser
import Runbook.File.Basic

/-! # What can go wrong when a program is read, loaded or run -/

namespace Runbook

inductive Error where
  | malformed (e : SyntaxError)
  | unknownEntry (name : String)
  | unknownFunction (name : String)
  | unknownExternalFunction (name path : String)
  | programNotFound (path : String) (cause : FileError)
  | evaluation (e : EvalError)
  | callDepthExceeded (function : String) (limit : Nat)
  | unexpectedInput
  | inputRequired (name : String)
  deriving Repr, BEq, DecidableEq

def Error.message : Error → String
  | malformed e => e.message
  | unknownEntry name => "entry function '" ++ name ++ "' is not declared"
  | unknownFunction name => "function '" ++ name ++ "' is not declared"
  | unknownExternalFunction name path => "function '" ++ name ++ "' is not declared in " ++ path
  | programNotFound path cause => "cannot load program " ++ path ++ ": " ++ cause.message
  | evaluation e => e.message
  | callDepthExceeded function limit =>
    "call depth exceeded " ++ toString limit ++ " frames while calling '" ++ function ++ "'"
  | unexpectedInput => "input was provided but the program is not waiting for input"
  | inputRequired name => "program is waiting for input into '" ++ name ++ "'"

end Runbook

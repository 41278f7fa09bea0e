/-! # Expressions, and the templates that embed them in text -/

namespace Runbook

inductive BinaryOp where
  | or
  | and
  | eq
  | ne
  | strictEq
  | strictNe
  | lt
  | lte
  | gt
  | gte
  | add
  | sub
  | mul
  | div
  | mod
  deriving Repr, BEq, DecidableEq, Inhabited

inductive UnaryOp where
  | not
  | neg
  | plus
  deriving Repr, BEq, DecidableEq, Inhabited

/-- A piece of a template: literal text, or the code between two braces. -/
inductive Segment (α : Type) where
  | text (v : String)
  | code (content : α)
  deriving Repr, BEq, DecidableEq, Inhabited

inductive Expr where
  | bool (v : Bool)
  | num (v : Float)
  | str (v : String)
  | var (name : String)
  | binary (op : BinaryOp) (left right : Expr)
  | unary (op : UnaryOp) (operand : Expr)
  | template (parts : List (Segment Expr))
  | member (object : Expr) (name : String)
  | index (object key : Expr)
  /-- A call inside an expression. It can be read, but not evaluated. -/
  | call (callee : Expr) (args : List Expr)
  deriving Repr, Inhabited

end Runbook

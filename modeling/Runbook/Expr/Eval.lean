import Runbook.Expr.Basic
import Runbook.Value.Basic

/-!
# The value of an expression in given bindings

Evaluation only reads variables.
-/

namespace Runbook

inductive EvalError where
  | callInExpression (callee : String)
  | propertyOfNothing (property target : String)
  deriving Repr, BEq, DecidableEq

def EvalError.message : EvalError → String
  | callInExpression callee =>
    "calling '" ++ callee ++ "' inside an expression is not supported; use a link call instead"
  | propertyOfNothing property target =>
    "cannot read property '" ++ property ++ "' of " ++ target

def BinaryOp.apply (op : BinaryOp) (a b : Value) : Value :=
  match op with
  | or => if a.isTruthy then a else b
  | and => if a.isTruthy then b else a
  | eq => .bool (a.looseEq b)
  | ne => .bool (!a.looseEq b)
  | strictEq => .bool (a.strictEq b)
  | strictNe => .bool (!a.strictEq b)
  | lt => .bool (a.compare b == some .lt)
  | lte => .bool (a.compare b == some .lt || a.compare b == some .eq)
  | gt => .bool (a.compare b == some .gt)
  | gte => .bool (a.compare b == some .gt || a.compare b == some .eq)
  | add => a.add b
  | sub => .num (a.toNumber - b.toNumber)
  | mul => .num (a.toNumber * b.toNumber)
  | div => .num (a.toNumber / b.toNumber)
  | mod => .num (Number.remainder a.toNumber b.toNumber)

def UnaryOp.apply (op : UnaryOp) (a : Value) : Value :=
  match op with
  | not => .bool (!a.isTruthy)
  | neg => .num (-a.toNumber)
  | plus => .num a.toNumber

/-- The property of a value under a key: the length or a character of a text. -/
def Value.property (target key : Value) : Except EvalError Value :=
  if target.isNullish then .error (.propertyOfNothing key.display target.display)
  else
    match key with
    | .str "length" =>
      match target.length? with
      | some n => .ok (.num (Number.nearest n 0))
      | none => .ok .undefined
    | _ => .ok (target.charAt key)

/-- The left operand's value if it already decides an `&&` or `||`. -/
def BinaryOp.decided? (op : BinaryOp) (left : Value) : Option Value :=
  match op with
  | or => if left.isTruthy then some left else none
  | and => if left.isTruthy then none else some left
  | _ => none

def Expr.calleeName : Expr → String
  | var name => name
  | _ => "expression"

mutual

/-- The value of an expression. The right operand of `&&` and `||` is evaluated only if the left one
does not decide. -/
def Expr.eval (get : String → Value) : Expr → Except EvalError Value
  | .bool v => .ok (.bool v)
  | .num v => .ok (.num v)
  | .str v => .ok (.str v)
  | .var name => .ok (get name)
  | .binary op left right => do
    let a ← left.eval get
    match op.decided? a with
    | some v => .ok v
    | none => do .ok (op.apply a (← right.eval get))
  | .unary op operand => do .ok (op.apply (← operand.eval get))
  | .template parts => do .ok (.str (← Expr.evalParts get parts))
  | .member object name => do Value.property (← object.eval get) (.str name)
  | .index object key => do
    let target ← object.eval get
    Value.property target (← key.eval get)
  | .call callee _ => .error (.callInExpression callee.calleeName)

def Expr.evalParts (get : String → Value) : List (Segment Expr) → Except EvalError String
  | [] => .ok ""
  | part :: parts => do
    let front ← Expr.evalPart get part
    .ok (front ++ (← Expr.evalParts get parts))

def Expr.evalPart (get : String → Value) : Segment Expr → Except EvalError String
  | .text v => .ok v
  | .code e => do .ok (← e.eval get).display

end

end Runbook

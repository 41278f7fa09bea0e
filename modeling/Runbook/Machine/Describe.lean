import Runbook.Machine.Basic
import Runbook.Text.Quoted

/-! # A machine's state as one line of text, for whoever looks for a fault in a program -/

namespace Runbook

/-- Numbers in a description show that they need not be whole, and keep the sign of zero. -/
def Number.detailed : Number.Layout where
  least := -4
  bound := 16
  wholeMark := ".0"
  plus := ""
  tie := .up
  exactWhole := false
  signedZero := true
  nan := "NaN"
  infinity := "inf"

def describeBool (v : Bool) : String := if v then "true" else "false"

def Value.describe : Value → String
  | undefined => "Undefined"
  | null => "Null"
  | bool v => "Bool(" ++ describeBool v ++ ")"
  | num v => "Num(" ++ Number.detailed.write v ++ ")"
  | str v => "Str(" ++ Text.quoted v ++ ")"

def Value.describeList (vs : List Value) : String :=
  "[" ++ ", ".intercalate (vs.map describe) ++ "]"

def describeFields (name : String) (fields : List (String × String)) (rest : String) : String :=
  name ++ " \x7b " ++ ", ".intercalate (fields.map fun (k, v) => k ++ ": " ++ v) ++ rest ++ " \x7d"

def Limits.describe (l : Limits) : String :=
  describeFields "VmOptions"
    [("max_call_depth", toString l.maxCallDepth), ("tail_calls", describeBool l.tailCalls)] ""

def Input.describe : Input → String
  | buffered values => "Buffered(" ++ Value.describeList values ++ ")"
  | interactive => "Interactive"

def Machine.describe (m : Machine) : String :=
  let control := match m.waiting with
    | none => "None"
    | some name =>
      "AwaitingInput(" ++ describeFields "InputRequest" [("variable", Text.quoted name)] "" ++ ")"
  describeFields "VM"
    [("frames", toString m.frames.length), ("control", control),
     ("output", Value.describeList m.printed.toList), ("options", m.limits.describe),
     ("input", m.input.describe)] ", .."

end Runbook

import Runbook.Json.Basic
import Runbook.Program.Basic

/-!
# Programs as JSON

Each kind of node names itself in its field `t`.
-/

namespace Runbook

def BinaryOp.name : BinaryOp → String
  | or => "Or"
  | and => "And"
  | eq => "Eq"
  | ne => "Ne"
  | strictEq => "StrictEq"
  | strictNe => "StrictNe"
  | lt => "Lt"
  | lte => "Lte"
  | gt => "Gt"
  | gte => "Gte"
  | add => "Add"
  | sub => "Sub"
  | mul => "Mul"
  | div => "Div"
  | mod => "Mod"

def UnaryOp.name : UnaryOp → String
  | not => "Not"
  | neg => "Neg"
  | plus => "Plus"

def Json.node (kind : String) (fields : List (String × Json)) : Json :=
  .obj (("t", .str kind) :: fields)

mutual

def Expr.toJson : Expr → Json
  | .bool v => .node "LitBool" [("v", .bool v)]
  | .num v => .node "LitNum" [("v", .real v)]
  | .str v => .node "LitStr" [("v", .str v)]
  | .var name => .node "Ident" [("name", .str name)]
  | .binary op left right =>
    .node "Binary" [("op", .str op.name), ("left", left.toJson), ("right", right.toJson)]
  | .unary op operand => .node "Unary" [("op", .str op.name), ("operand", operand.toJson)]
  | .template parts => .node "Template" [("parts", .arr (Expr.segmentsJson parts))]
  | .member object name =>
    .node "Member" [("object", object.toJson), ("property", .node "Named" [("name", .str name)])]
  | .index object key =>
    .node "Member"
      [("object", object.toJson), ("property", .node "Computed" [("expr", key.toJson)])]
  | .call callee args =>
    .node "Call" [("callee", callee.toJson), ("args", .arr (Expr.listJson args))]

def Expr.listJson : List Expr → List Json
  | [] => []
  | e :: rest => e.toJson :: Expr.listJson rest

def Expr.segmentsJson : List (Segment Expr) → List Json
  | [] => []
  | s :: rest => Expr.segmentJson s :: Expr.segmentsJson rest

def Expr.segmentJson : Segment Expr → Json
  | .text v => .node "Text" [("v", .str v)]
  | .code e => .node "Expr" [("expr", e.toJson)]

end

def Json.optional (f : α → Json) : Option α → Json
  | some a => f a
  | none => .null

mutual

def Statement.toJson : Statement → Json
  | .print e => .node "Print" [("expr", e.toJson)]
  | .assign name op value =>
    .node "Assign" [("name", .str name), ("op", Json.optional (fun op => .str op.binary.name) op),
      ("value", value.toJson)]
  | .call function file args =>
    .node "Call" [("function", .str function), ("file", Json.optional .str file),
      ("args", .arr (Expr.listJson args))]
  | .guard test body => .node "If" [("test", test.toJson), ("body", .arr (Statement.listJson body))]
  | .leave => .node "Break" []
  | .ask name => .node "Input" [("name", .str name)]

def Statement.listJson : List Statement → List Json
  | [] => []
  | s :: rest => s.toJson :: Statement.listJson rest

end

def Function.toJson (f : Function) : Json :=
  .obj [("name", .str f.name), ("params", .arr (f.params.map .str)),
    ("body", .arr (Statement.listJson f.body))]

def Program.sorted (p : Program) : List Function := p.functions.mergeSort fun f g => f.name ≤ g.name

def Program.toJson (p : Program) : Json :=
  .obj [("functions", .obj (p.sorted.map fun f => (f.name, f.toJson))),
    ("base_dir", .str p.baseDir)]

end Runbook

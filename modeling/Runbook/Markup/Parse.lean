import Runbook.Markup.Block
import Runbook.Markup.Inline

/-! # The tree of a whole document -/

namespace Runbook.Markup

def textBranch (definitions : Definitions) (tag : Tag) (content : List Glyph) : Node :=
  .branch tag ((span? content).getD default) (inlineNodes definitions content)

mutual

def Block.node (definitions : Definitions) : Block → Node
  | .paragraph content => textBranch definitions .paragraph content
  | .heading level content => textBranch definitions (.heading level) content
  | .rule span => .leaf .rule span
  | .verbatim span => .branch .other span []
  | .quote blocks =>
    let children := blockNodes definitions blocks
    .branch .quote (Node.spanOf children) children
  | .list ordered tight items =>
    let children := itemNodes definitions tight items
    .branch (.list ordered) (Node.spanOf children) children

def blockNodes (definitions : Definitions) : List Block → List Node
  | [] => []
  | b :: rest => b.node definitions :: blockNodes definitions rest

/-- The blocks of an item. A paragraph of a tight list shows only what is inside it. -/
def itemBlockNodes (definitions : Definitions) (tight : Bool) : List Block → List Node
  | [] => []
  | b :: rest =>
    let nodes := match tight, b with
      | true, .paragraph content => inlineNodes definitions content
      | _, b => [b.node definitions]
    nodes ++ itemBlockNodes definitions tight rest

def itemNodes (definitions : Definitions) (tight : Bool) : List (List Block) → List Node
  | [] => []
  | blocks :: rest =>
    let children := itemBlockNodes definitions tight blocks
    .branch .item (Node.spanOf children) children :: itemNodes definitions tight rest

end

def parse (text : String) : List Node :=
  let (blocks, definitions) := blocksOf text
  blockNodes definitions blocks

end Runbook.Markup

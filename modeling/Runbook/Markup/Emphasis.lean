import Runbook.Markup.Node
import Runbook.Text.Blank
import Runbook.Text.Punctuation

/-!
# Emphasis

A line is first cut into tokens: finished nodes and runs of `*` or `_`. Runs are then paired, a
closing run with the nearest opening run it agrees with, two marks for strong emphasis and one for
plain, from the inside out. Marks without a partner are text.
-/

namespace Runbook.Markup

open Text (isBlank isPunctuation)

/-! ## Runs of marks -/

/-- Whether a run of marks may open emphasis, given the characters around it. Nothing before it
means that it begins a line. -/
def canOpen (mark : Char) (before after : Option Char) : Bool :=
  match after with
  | none => false
  | some next =>
    !isBlank next &&
      match before with
      | none => true
      | some previous =>
        (mark == '*' && !isPunctuation next) || isBlank previous || isPunctuation previous

def canClose (mark : Char) (before after : Option Char) : Bool :=
  match before with
  | none => false
  | some previous =>
    !isBlank previous &&
      match after with
      | none => true
      | some next =>
        (mark == '*' && !isPunctuation previous) || isBlank next || isPunctuation next

/-- A run of marks that has not been paired. `length` is what it was at first, `count` what is left
of it, and `start` the byte of the first mark left. -/
structure Run where
  mark : Char
  length : Nat
  count : Nat
  opens : Bool
  closes : Bool
  start : Nat

def Run.node (r : Run) : Node :=
  .leaf (.text (String.ofList (List.replicate r.count r.mark))) ⟨r.start, r.start + r.count⟩

/-- Whether a closing run may pair with an opening one. If one of them could do both, their
lengths must not add up to a multiple of three unless both are multiples of three. -/
def Run.pairs (opener closer : Run) : Bool :=
  opener.mark == closer.mark &&
    (!(opener.opens && opener.closes) && !(closer.opens && closer.closes) ||
      (opener.length + closer.length) % 3 != 0 || closer.length % 3 == 0)

inductive Token where
  | node (n : Node)
  | run (r : Run)

/-! ## Pairing -/

structure Opener where
  run : Run
  nodes : List Node

structure Pairing where
  openers : List Opener
  base : List Node

namespace Pairing

def push (p : Pairing) (ns : List Node) : Pairing :=
  match p.openers with
  | [] => { p with base := ns ++ p.base }
  | o :: rest => { p with openers := { o with nodes := ns ++ o.nodes } :: rest }

def asText : List Opener → List Node
  | [] => []
  | o :: rest => o.nodes ++ o.run.node :: asText rest

/-- Wraps nodes into `count` pairs of marks that end at byte `left` and begin at byte `right`. -/
def wrap : Nat → Nat → Nat → List Node → List Node
  | 0, _, _, nodes => nodes
  | 1, left, right, nodes => [.branch .emphasis ⟨left - 1, right + 1⟩ nodes]
  | count + 2, left, right, nodes =>
    wrap count (left - 2) (right + 2) [.branch .strong ⟨left - 2, right + 2⟩ nodes]

def findPartner (r : Run) : List Opener → Option (List Opener × Opener × List Opener)
  | [] => none
  | o :: rest =>
    if o.run.pairs r then some ([], o, rest)
    else (findPartner r rest).map fun (above, partner, below) => (o :: above, partner, below)

/-- Pairs as much as possible of a closing run and returns what is left of it. Each round uses up
at least one of its marks, so as many rounds as it has marks are enough. -/
def close : Nat → Run → Pairing → Run × Pairing
  | 0, r, p => (r, p)
  | rounds + 1, r, p =>
    if r.count = 0 then (r, p) else
    match findPartner r p.openers with
    | none => (r, p)
    | some (above, o, below) =>
      let used := min r.count o.run.count
      let inner := (asText above ++ o.nodes).reverse
      let wrapped := wrap used (o.run.start + o.run.count) r.start inner
      let left : Run := { o.run with count := o.run.count - used }
      let rest : Pairing := { p with openers := below }
      let p : Pairing :=
        if left.count = 0 then rest.push wrapped
        else { p with openers := ⟨left, wrapped⟩ :: below }
      close rounds { r with count := r.count - used, start := r.start + used } p

def step (p : Pairing) : Token → Pairing
  | .node n => p.push [n]
  | .run r =>
    let (left, p) := if r.closes then close r.count r p else (r, p)
    if left.count = 0 then p
    else if left.opens then { p with openers := ⟨left, []⟩ :: p.openers }
    else p.push [left.node]

end Pairing

def pairRuns (tokens : List Token) : List Node :=
  let p := tokens.foldl Pairing.step ⟨[], []⟩
  (Pairing.asText p.openers ++ p.base).reverse

end Runbook.Markup

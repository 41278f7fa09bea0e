import Runbook.File.Tree
import Runbook.Machine.Describe
import Runbook.Main
import Runbook.Proofs.Machine.Activation
import Runbook.Proofs.Machine.Structured
import Runbook.Proofs.Machine.Refinement
import Runbook.Proofs.Machine.TailCalls
import Runbook.Proofs.Expr.Grammar
import Runbook.Proofs.Expr.Tokens
import Runbook.Proofs.Expr.Literals
import Runbook.Proofs.Expr.Soundness
import Runbook.Proofs.Expr.Follow
import Runbook.Proofs.Expr.Completeness
import Runbook.Proofs.Expr.Acceptance
import Runbook.Proofs.Program.Reading
import Runbook.Proofs.Program.Insertion
import Runbook.Proofs.Program.Chapters
import Runbook.Proofs.Machine.Moves
import Runbook.Proofs.Machine.ProperTailCalls
import Runbook.Proofs.Machine.WellFormed
import Runbook.Proofs.Machine.History
import Runbook.Proofs.Machine.Isolation
import Runbook.Proofs.Machine.Disciplines
import Runbook.Proofs.Machine.Suspension
import Runbook.Proofs.Library.FirstLoad
import Runbook.Proofs.Library.Transparency
import Runbook.Proofs.Expr.Parentheses
import Runbook.Proofs.Expr.Writing
import Runbook.Proofs.Machine.Failure
import Runbook.Proofs.Machine.DepthLimit
import Runbook.Proofs.Machine.Termination
import Runbook.Proofs.Expr.Segments
import Runbook.Proofs.Value.Coherence
import Runbook.Proofs.Expr.Concatenation
import Runbook.Proofs.Expr.Assignments
import Runbook.Proofs.Document.Building
import Runbook.Proofs.Number.Binary
import Runbook.Proofs.Number.Nearest
import Runbook.Proofs.Number.Rounding
import Runbook.Proofs.Number.Decimals
import Runbook.Proofs.Number.Shortest
import Runbook.Proofs.Number.Text
import Runbook.Proofs.Number.Literal
import Runbook.Proofs.Value.RoundTrip
import Runbook.Proofs.Program.Introduction
import Runbook.Proofs.Program.Printing
import Runbook.Proofs.Machine.Returning
import Runbook.Proofs.Machine.Variables
import Runbook.Proofs.Number.Optimal
import Runbook.Proofs.Number.Whole
import Runbook.Proofs.Value.Display
import Runbook.Proofs.Program.Saying

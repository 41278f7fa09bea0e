import Runbook.Json.Basic
import Runbook.Number.Read
import Runbook.Value.Basic

/-! # Values as JSON, and JSON scalars as values -/

namespace Runbook.Value

/-- Undefined has no counterpart of its own and becomes null. -/
def toJson : Value → Json
  | undefined => .null
  | null => .null
  | bool v => .bool v
  | num v => .real v
  | str v => .str v

def ofJson? : Json → Option Value
  | .null => some null
  | .bool v => some (bool v)
  | .whole n =>
    let magnitude := Number.nearest n.natAbs 0
    some (num (if n < 0 then -magnitude else magnitude))
  | .real x => some (num x)
  | .str v => some (str v)
  | .arr _ => none
  | .obj _ => none

end Runbook.Value

/-!
# JSON values

Whole numbers of 64 bits are kept apart from other numbers.
-/

namespace Runbook

inductive Json where
  | null
  | bool (v : Bool)
  | whole (n : Int)
  | real (x : Float)
  | str (v : String)
  | arr (items : List Json)
  | obj (fields : List (String × Json))
  deriving Repr, Inhabited

end Runbook

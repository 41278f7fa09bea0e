import Runbook.Expr.Assignment
import Runbook.Expr.Basic

/-!
# Programs

Functions by name, and the directory against which they name other files.
-/

namespace Runbook

inductive Statement where
  | print (e : Expr)
  | assign (name : String) (op : Option UpdateOp) (value : Expr)
  /-- Calls a function of this program, or of the program in the file. -/
  | call (function : String) (file : Option String) (args : List Expr)
  | guard (test : Expr) (body : List Statement)
  | leave
  | ask (name : String)
  deriving Repr, Inhabited

structure Function where
  name : String
  params : List String
  body : List Statement
  deriving Repr, Inhabited

structure Program where
  baseDir : String
  functions : List Function
  nodup : (functions.map (·.name)).Nodup := by decide
  deriving Repr

namespace Program

def empty (baseDir : String) : Program where
  baseDir := baseDir
  functions := []

instance : Inhabited Program := ⟨empty ""⟩

def find? (p : Program) (name : String) : Option Function := p.functions.find? (·.name == name)

def names (p : Program) : List String := p.functions.map (·.name)

theorem nodup_replace {fs : List Function} (h : (fs.map (·.name)).Nodup) (f : Function) :
    ((fs.filter (·.name != f.name) ++ [f]).map (·.name)).Nodup := by
  rw [List.map_append, List.nodup_append]
  refine ⟨h.sublist (List.filter_sublist.map _), by simp, fun name hname other hother => ?_⟩
  obtain ⟨g, hg, rfl⟩ := List.mem_map.mp hname
  simp only [List.mem_filter, bne_iff_ne] at hg
  rw [List.mem_singleton.mp hother]
  exact hg.2

/-- Adds a function, which takes the place of an earlier one of its name. -/
def declare (p : Program) (f : Function) : Program where
  baseDir := p.baseDir
  functions := p.functions.filter (·.name != f.name) ++ [f]
  nodup := nodup_replace p.nodup f

end Program

end Runbook

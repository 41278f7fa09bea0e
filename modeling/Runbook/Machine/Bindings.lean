import Runbook.Value.Basic

/-! # Variables and their values -/

namespace Runbook

structure Bindings where
  entries : List (String × Value)
  nodup : (entries.map Prod.fst).Nodup := by decide

namespace Bindings

instance : Membership (String × Value) Bindings := ⟨fun b entry => entry ∈ b.entries⟩

def empty : Bindings where
  entries := []

def map {α : Type} (b : Bindings) (f : String × Value → α) : List α := b.entries.map f

def lookup (b : Bindings) (name : String) : Option Value := b.entries.lookup name

/-- The value of a variable; one that was never stored is undefined. -/
def get (b : Bindings) (name : String) : Value := (b.lookup name).getD .undefined

/-- A new name goes to the end. -/
def put (name : String) (v : Value) : List (String × Value) → List (String × Value)
  | [] => [(name, v)]
  | (other, old) :: rest =>
    if other = name then (name, v) :: rest else (other, old) :: put name v rest

theorem mem_put {name other : String} {v x : Value} {entries : List (String × Value)}
    (h : (other, x) ∈ put name v entries) : other = name ∨ ∃ y, (other, y) ∈ entries := by
  induction entries with
  | nil =>
    simp only [put, List.mem_singleton, Prod.mk.injEq] at h
    exact .inl h.1
  | cons first rest ih =>
    obtain ⟨key, old⟩ := first
    unfold put at h
    split at h
    · rcases List.mem_cons.mp h with heq | hrest
      · exact .inl (Prod.mk.inj heq).1
      · exact .inr ⟨x, List.mem_cons_of_mem _ hrest⟩
    · rcases List.mem_cons.mp h with heq | hrest
      · exact .inr ⟨old, by rw [(Prod.mk.inj heq).1]; exact List.mem_cons_self ..⟩
      · rcases ih hrest with hname | ⟨y, hy⟩
        · exact .inl hname
        · exact .inr ⟨y, List.mem_cons_of_mem _ hy⟩

theorem nodup_put (name : String) (v : Value) {entries : List (String × Value)}
    (h : (entries.map Prod.fst).Nodup) : ((put name v entries).map Prod.fst).Nodup := by
  induction entries with
  | nil => simp [put]
  | cons first rest ih =>
    obtain ⟨key, old⟩ := first
    rw [List.map_cons, List.nodup_cons] at h
    unfold put
    split
    · rename_i hkey
      rw [List.map_cons, List.nodup_cons, ← hkey]
      exact h
    · rename_i hkey
      rw [List.map_cons, List.nodup_cons]
      refine ⟨fun hmem => ?_, ih h.2⟩
      obtain ⟨⟨other, x⟩, hput, hother⟩ := List.mem_map.mp hmem
      rcases mem_put hput with rfl | ⟨y, hy⟩
      · exact hkey hother.symm
      · exact h.1 (List.mem_map.mpr ⟨(other, y), hy, hother⟩)

def set (b : Bindings) (name : String) (v : Value) : Bindings where
  entries := put name v b.entries
  nodup := nodup_put name v b.nodup

/-- Binds arguments to parameters by position. A missing argument is undefined, an extra one is
dropped. -/
def ofArgs (b : Bindings) : List String → List Value → Bindings
  | [], _ => b
  | p :: params, [] => ofArgs (b.set p .undefined) params []
  | p :: params, a :: args => ofArgs (b.set p a) params args

theorem mem_set {b : Bindings} {name other : String} {v x : Value}
    (h : (other, x) ∈ b.set name v) : other = name ∨ ∃ y, (other, y) ∈ b := mem_put h

theorem mem_ofArgs {b : Bindings} {params : List String} {args : List Value} {name : String}
    {x : Value} (h : (name, x) ∈ b.ofArgs params args) : name ∈ params ∨ ∃ y, (name, y) ∈ b := by
  induction params generalizing b args with
  | nil => exact .inr ⟨x, h⟩
  | cons param params ih =>
    have hset : ∀ v rest, (name, x) ∈ (b.set param v).ofArgs params rest →
        name ∈ param :: params ∨ ∃ y, (name, y) ∈ b := by
      intro v rest hrest
      rcases ih hrest with hparam | ⟨y, hy⟩
      · exact .inl (List.mem_cons_of_mem _ hparam)
      · rcases mem_set hy with rfl | hold
        · exact .inl (List.mem_cons_self ..)
        · exact .inr hold
    cases args with
    | nil => exact hset _ _ h
    | cons a args => exact hset _ _ h

theorem lookup_put (name other : String) (v : Value) (entries : List (String × Value)) :
    (put name v entries).lookup other = if other = name then some v else entries.lookup other := by
  have hcons : ∀ (key : String) (x : Value) (rest : List (String × Value)),
      ((key, x) :: rest).lookup other = if other = key then some x else rest.lookup other := by
    intro key x rest
    rw [List.lookup_cons]
    by_cases h : other = key
    · simp [h]
    · rw [beq_false_of_ne h, if_neg h]
  induction entries with
  | nil => rw [put, hcons]
  | cons first rest ih =>
    obtain ⟨key, old⟩ := first
    unfold put
    split
    · rename_i hkey
      rw [hcons, hcons, hkey]
      split <;> rfl
    · rename_i hkey
      rw [hcons, hcons, ih]
      grind

theorem lookup_set (b : Bindings) (name other : String) (v : Value) :
    (b.set name v).lookup other = if other = name then some v else b.lookup other :=
  lookup_put name other v b.entries

theorem get_set (b : Bindings) (name : String) (v : Value) :
    (b.set name v).get = fun other => if other = name then v else b.get other := by
  funext other
  rw [get, lookup_set]
  split <;> rfl

end Bindings

end Runbook

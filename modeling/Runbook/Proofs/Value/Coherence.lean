import Mathlib
import Runbook.Expr.Eval

/-!
# The operators that compare agree with one another

All that is used of numbers is how binary64 numbers compare: exchanging two numbers turns the
answer round, and there is no answer only next to a NaN.
-/

namespace Runbook

/-! ## Numbers -/

namespace Number

open Float.Model (UnpackedFloat)

theorem swap_unpacked (x y : UnpackedFloat) : (x.compare y).map Ordering.swap = y.compare x := by
  rcases x with (_ | _) | _ | (_ | _) | ⟨_ | _, m, e, hm⟩ <;>
    rcases y with (_ | _) | _ | (_ | _) | ⟨_ | _, n, f, hn⟩ <;>
    simp [UnpackedFloat.compare, Ordering.swap_then, Int.compare_swap, Nat.compare_swap]
  -- what is left is the order of two signs
  all_goals rfl

theorem unpacked_eq_none_iff (x y : UnpackedFloat) :
    x.compare y = none ↔ x.isNaN = true ∨ y.isNaN = true := by
  rcases x with (_ | _) | _ | (_ | _) | ⟨_ | _, m, e, hm⟩ <;>
    rcases y with (_ | _) | _ | (_ | _) | ⟨_ | _, n, f, hn⟩ <;>
    simp [UnpackedFloat.compare, UnpackedFloat.isNaN]

theorem lt_iff_unpacked (x y : Float) :
    x < y ↔ x.toModel.unpack.compare y.toModel.unpack = some .lt := by
  simp [LT.lt, Float.lt, Float.Model.lt, UnpackedFloat.lt]

theorem beq_iff_unpacked (x y : Float) :
    (x == y) = true ↔ x.toModel.unpack.compare y.toModel.unpack = some .eq := by
  change (x.toModel.unpack.compare y.toModel.unpack == some .eq) = true ↔ _
  simp

theorem compare_eq_unpacked (x y : Float) :
    compare x y = x.toModel.unpack.compare y.toModel.unpack := by
  have hswap := swap_unpacked x.toModel.unpack y.toModel.unpack
  unfold compare
  simp only [lt_iff_unpacked, beq_iff_unpacked, ← hswap]
  rcases x.toModel.unpack.compare y.toModel.unpack with _ | _ | _ | _ <;> simp

theorem swap_compare (x y : Float) : (compare x y).map Ordering.swap = compare y x := by
  rw [compare_eq_unpacked, compare_eq_unpacked, swap_unpacked]

theorem compare_eq_none_iff (x y : Float) :
    compare x y = none ↔ x.isNaN = true ∨ y.isNaN = true := by
  rw [compare_eq_unpacked]
  exact unpacked_eq_none_iff x.toModel.unpack y.toModel.unpack

end Number

/-! ## Equality -/

namespace Value

theorem looseEq_comm (a b : Value) : a.looseEq b = b.looseEq a := by
  cases a <;> cases b <;>
    simp [looseEq, isNullish, boolAsNumber, strictEq, BEq.comm]

theorem toNumber_bool_beq_self (v : Bool) : (toNumber (bool v) == toNumber (bool v)) = true := by
  cases v <;> decide

theorem looseEq_of_strictEq {a b : Value} (h : a.strictEq b = true) : a.looseEq b = true := by
  cases a <;> cases b <;> simp only [strictEq, Bool.false_eq_true] at h <;>
    simp only [looseEq, isNullish, boolAsNumber, strictEq, Bool.or_self, Bool.and_self, if_true,
      Bool.false_eq_true, if_false, h]
  rw [eq_of_beq h]
  exact toNumber_bool_beq_self _

/-! ### The rules behind it -/

/-- The rules by which `==` finds its answer, and how many truth values it turns into numbers before
it does. A rule is for pairs that none before it is for. -/
inductive Settles : Value → Value → Nat → Bool → Prop where
  | nullish {a b : Value} (h : a.isNullish = true ∨ b.isNullish = true) :
    Settles a b 0 (a.isNullish && b.isNullish)
  | boolLeft {v : Bool} {b : Value} {n : Nat} {r : Bool} (hb : b.isNullish = false)
    (h : Settles (num (toNumber (bool v))) b n r) : Settles (bool v) b (n + 1) r
  | boolRight {a : Value} {v : Bool} {n : Nat} {r : Bool} (ha : a.isNullish = false)
    (hbool : ∀ u, a ≠ bool u) (h : Settles a (num (toNumber (bool v))) n r) :
    Settles a (bool v) (n + 1) r
  | numStr {x : Float} {y : String} : Settles (num x) (str y) 0 (x == toNumber (str y))
  | strNum {x : String} {y : Float} : Settles (str x) (num y) 0 (toNumber (str x) == y)
  | num {x y : Float} : Settles (num x) (num y) 0 (strictEq (num x) (num y))
  | str {x y : String} : Settles (str x) (str y) 0 (strictEq (str x) (str y))

theorem Settles.eq_looseEq {a b : Value} {n : Nat} {r : Bool} (h : Settles a b n r) :
    r = a.looseEq b := by
  induction h with
  | @nullish a b h =>
    unfold looseEq
    rw [if_pos (by simpa using h)]
  | @boolLeft v b n r hb h ih =>
    rw [ih]
    cases b <;> simp [looseEq, isNullish, boolAsNumber]
  | @boolRight a v n r ha hbool h ih =>
    rw [ih]
    cases a <;> simp [looseEq, isNullish, boolAsNumber]
  | numStr | strNum | num | str => rfl

theorem settles_num (x : Float) (b : Value) : ∃ n ≤ 1, ∃ r, Settles (num x) b n r := by
  cases b with
  | undefined | null => exact ⟨0, by omega, _, .nullish (.inr rfl)⟩
  | bool v => exact ⟨1, by omega, _, .boolRight rfl (by simp) .num⟩
  | num y => exact ⟨0, by omega, _, .num⟩
  | str y => exact ⟨0, by omega, _, .numStr⟩

theorem settles_str (x : String) (b : Value) : ∃ n ≤ 1, ∃ r, Settles (str x) b n r := by
  cases b with
  | undefined | null => exact ⟨0, by omega, _, .nullish (.inr rfl)⟩
  | bool v => exact ⟨1, by omega, _, .boolRight rfl (by simp) .strNum⟩
  | num y => exact ⟨0, by omega, _, .strNum⟩
  | str y => exact ⟨0, by omega, _, .str⟩

theorem settles_bool (v : Bool) (b : Value) : ∃ n ≤ 2, ∃ r, Settles (bool v) b n r := by
  cases hb : b.isNullish with
  | true => exact ⟨0, by omega, _, .nullish (.inr hb)⟩
  | false =>
    obtain ⟨n, hn, r, h⟩ := settles_num (toNumber (bool v)) b
    exact ⟨n + 1, by omega, r, .boolLeft hb h⟩

theorem settles_looseEq (a b : Value) : ∃ n ≤ 2, Settles a b n (a.looseEq b) := by
  have hends : ∃ n ≤ 2, ∃ r, Settles a b n r := by
    cases a with
    | undefined | null => exact ⟨0, by omega, _, .nullish (.inl rfl)⟩
    | bool v => exact settles_bool v b
    | num x =>
      obtain ⟨n, hn, h⟩ := settles_num x b
      exact ⟨n, by omega, h⟩
    | str x =>
      obtain ⟨n, hn, h⟩ := settles_str x b
      exact ⟨n, by omega, h⟩
  obtain ⟨n, hn, r, h⟩ := hends
  rw [← h.eq_looseEq]
  exact ⟨n, hn, h⟩

/-! ## Order -/

theorem compare_of_not_str {a b : Value} (h : ¬(a.isStr = true ∧ b.isStr = true)) :
    a.compare b = Number.compare a.toNumber b.toNumber := by
  unfold compare
  split
  · simp [isStr] at h
  · rfl

theorem swap_compare (a b : Value) : (a.compare b).map Ordering.swap = b.compare a := by
  by_cases h : a.isStr = true ∧ b.isStr = true
  · cases a <;> cases b <;> simp only [isStr, Bool.false_eq_true, and_false, false_and] at h
    simp only [compare, Option.map_some]
    rw [← Std.OrientedOrd.eq_swap]
  · rw [compare_of_not_str h, compare_of_not_str (fun hba => h hba.symm), Number.swap_compare]

theorem compare_eq_none_iff (a b : Value) :
    a.compare b = none ↔
      ¬(a.isStr = true ∧ b.isStr = true) ∧
        (a.toNumber.isNaN = true ∨ b.toNumber.isNaN = true) := by
  by_cases h : a.isStr = true ∧ b.isStr = true
  · cases a <;> cases b <;> simp only [isStr, Bool.false_eq_true, and_false, false_and] at h
    simp [compare, isStr]
  · rw [compare_of_not_str h, Number.compare_eq_none_iff]
    simp only [h, not_false_eq_true, true_and]

end Value

/-! ## The operators -/

def BinaryOp.Holds (op : BinaryOp) (a b : Value) : Prop := op.apply a b = .bool true

namespace BinaryOp

variable {a b : Value}

theorem holds_eq : Holds .eq a b ↔ a.looseEq b = true := by
  simp [Holds, apply]

theorem holds_strictEq : Holds .strictEq a b ↔ a.strictEq b = true := by
  simp [Holds, apply]

theorem holds_lt : Holds .lt a b ↔ a.compare b = some .lt := by
  simp [Holds, apply]

theorem holds_lte : Holds .lte a b ↔ a.compare b = some .lt ∨ a.compare b = some .eq := by
  simp [Holds, apply]

theorem holds_gt : Holds .gt a b ↔ a.compare b = some .gt := by
  simp [Holds, apply]

theorem holds_gte : Holds .gte a b ↔ a.compare b = some .gt ∨ a.compare b = some .eq := by
  simp [Holds, apply]

end BinaryOp

namespace Value

open BinaryOp (Holds)

/-- What the operators on two values say of one another. -/
structure Coherent (a b : Value) : Prop where
  eq_comm : Holds .eq a b ↔ Holds .eq b a
  eq_of_strictEq : Holds .strictEq a b → Holds .eq a b
  ne : ∃ v, BinaryOp.eq.apply a b = .bool v ∧ BinaryOp.ne.apply a b = .bool (!v)
  strictNe : ∃ v, BinaryOp.strictEq.apply a b = .bool v ∧ BinaryOp.strictNe.apply a b = .bool (!v)
  lt_iff_gt : Holds .lt a b ↔ Holds .gt b a
  lte_iff_gte : Holds .lte a b ↔ Holds .gte b a
  lte_iff : Holds .lte a b ↔ Holds .lt a b ∨ a.compare b = some .eq
  not_lt_and_gt : ¬(Holds .lt a b ∧ Holds .gt a b)
  not_lt_and_equal : ¬(Holds .lt a b ∧ a.compare b = some .eq)
  not_gt_and_equal : ¬(Holds .gt a b ∧ a.compare b = some .eq)
  apart_iff : (∀ op ∈ [BinaryOp.lt, .lte, .gt, .gte], ¬Holds op a b) ↔
    ¬(a.isStr = true ∧ b.isStr = true) ∧ (a.toNumber.isNaN = true ∨ b.toNumber.isNaN = true)
  settles : ∃ n ≤ 2, Settles a b n (a.looseEq b)
  settles_only : ∀ n r, Settles a b n r → r = a.looseEq b

theorem coherent (a b : Value) : Coherent a b := by
  have hswap := swap_compare a b
  have hnone := compare_eq_none_iff a b
  have hlte : Holds .lte a b ↔ Holds .lt a b ∨ a.compare b = some .eq := by
    rw [BinaryOp.holds_lte, BinaryOp.holds_lt]
  refine ⟨?_, ?_, ⟨_, rfl, rfl⟩, ⟨_, rfl, rfl⟩, ?_, ?_, hlte, ?_, ?_, ?_, ?_, settles_looseEq a b,
    fun n r h => h.eq_looseEq⟩
  · rw [BinaryOp.holds_eq, BinaryOp.holds_eq, looseEq_comm]
  · rw [BinaryOp.holds_eq, BinaryOp.holds_strictEq]
    exact looseEq_of_strictEq
  -- the rest follows from the one answer of `compare`, turned round where the values are exchanged
  all_goals
    simp only [BinaryOp.holds_lt, BinaryOp.holds_lte, BinaryOp.holds_gt, BinaryOp.holds_gte,
      List.forall_mem_cons, ← hnone, ← hswap]
    rcases a.compare b with _ | _ | _ | _ <;> simp

end Value

end Runbook

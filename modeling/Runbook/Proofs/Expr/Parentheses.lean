import Runbook.Proofs.Expr.Grammar

/-!
# How many parentheses an expression takes

An operand whose own operator binds too weakly for its place needs a pair of its own, and no text
of the tree can do with fewer.
-/

namespace Runbook

/-- How tightly the outermost operator of a tree binds, on one scale with the binary operators:
operators before an operand bind tighter than those, and whatever comes after it tighter still. -/
def Expr.rank : Expr → Nat
  | .binary op _ _ => op.rank
  | .unary _ _ => 6
  | _ => 7

namespace Grammar

def pairs (rank : Nat) (e : Expr) : Nat := if e.rank < rank then 1 else 0

theorem pairs_eq_zero {rank : Nat} {e : Expr} (h : rank ≤ e.rank) : pairs rank e = 0 :=
  if_neg (by omega)

theorem pairs_le_one (rank : Nat) (e : Expr) : pairs rank e ≤ 1 := by
  unfold pairs
  split <;> omega

theorem pairs_mono {rank rank' : Nat} (h : rank ≤ rank') (e : Expr) :
    pairs rank e ≤ pairs rank' e := by
  unfold pairs
  split <;> split <;> omega

mutual

/-- The opening parentheses inside a tree that no text of it can do without: those of calls, those
in text literals, and those around operands. -/
def opens : Expr → Nat
  | .str v => v.toList.count '('
  | .binary op l r => (pairs op.rank l + opens l) + (pairs (op.rank + 1) r + opens r)
  | .unary _ e => pairs 6 e + opens e
  | .member e _ => pairs 7 e + opens e
  | .index e key => pairs 7 e + opens e + opens key
  | .call e args => pairs 7 e + opens e + (1 + opensAll args)
  | _ => 0

def opensAll : List Expr → Nat
  | [] => 0
  | e :: es => opens e + opensAll es

end

def Phrase.opens : Phrase → Nat
  | .level rank e => pairs rank e + Grammar.opens e
  | .prefixed e => pairs 6 e + Grammar.opens e
  | .suffixed e | .primary e => pairs 7 e + Grammar.opens e
  | .arguments es => opensAll es

theorem count_pieces_le (pieces : List Piece) :
    (pieces.map Piece.char).count '(' ≤ (pieces.flatMap Piece.text).count '(' := by
  induction pieces with
  | nil => simp
  | cons piece rest ih =>
    have hpiece : [piece.char].count '(' ≤ piece.text.count '(' := by
      cases piece with
      | plain c => exact Nat.le_refl _
      | escape c =>
        -- a character that a backslash changes becomes no parenthesis
        by_cases hc : c ∈ ['n', 't', 'r', '0']
        · simp only [List.mem_cons, List.not_mem_nil, or_false] at hc
          rcases hc with rfl | rfl | rfl | rfl <;> decide
        · have hsame : Expr.escaped c = c := by
            simp only [List.mem_cons, List.not_mem_nil, or_false, not_or] at hc
            unfold Expr.escaped
            split <;> simp_all
          simp only [Piece.char, hsame, Piece.text, List.count_cons]
          omega
    rw [List.map_cons, List.flatMap_cons, List.count_append, List.count_cons]
    rw [List.count_singleton] at hpiece
    omega

theorem Derives.opens_le {p : Phrase} {s : List Char} (h : Derives p s) :
    p.opens ≤ s.count '(' := by
  induction h with
  | prefixed _ ih => exact ih
  | @tighter rank e s hrank _ ih =>
    have hmono := pairs_mono (by omega : rank ≤ rank + 1) e
    simp only [Phrase.opens] at ih ⊢
    omega
  | @suffixed e s _ ih =>
    have hmono := pairs_mono (by omega : 6 ≤ 7) e
    simp only [Phrase.opens] at ih ⊢
    omega
  | primary _ ih => exact ih
  | @binary op l r s g h t _ _ _ _ ihl ihr =>
    have hown : pairs op.rank (.binary op l r) = 0 := pairs_eq_zero (Nat.le_refl _)
    simp only [Phrase.opens, opens, List.count_append] at ihl ihr ⊢
    omega
  | @unary op e g s _ _ ih =>
    have hown : pairs 6 (.unary op e) = 0 := pairs_eq_zero (Nat.le_refl _)
    simp only [Phrase.opens, opens, List.cons_append, List.count_cons, List.count_append] at ih ⊢
    omega
  | @member e s g h name _ _ _ _ ih =>
    have hown : pairs 7 (.member e (String.ofList name)) = 0 := pairs_eq_zero (Nat.le_refl _)
    simp only [Phrase.opens, opens, List.count_append, List.append_assoc] at ih ⊢
    omega
  | @index e key s g h t k _ _ _ _ _ ihe ihkey =>
    have hown : pairs 7 (.index e key) = 0 := pairs_eq_zero (Nat.le_refl _)
    simp only [Phrase.opens, opens, List.count_append, List.count_cons, List.append_assoc,
      List.cons_append] at ihe ihkey ⊢
    omega
  | @call e args s g h t k _ _ _ _ _ ihe ihargs =>
    have hown : pairs 7 (.call e args) = 0 := pairs_eq_zero (Nat.le_refl _)
    simp only [Phrase.opens, opens, List.count_append, List.count_cons, List.append_assoc,
      List.cons_append, beq_self_eq_true, if_true] at ihe ihargs ⊢
    omega
  | @callNone e s g h _ _ _ ih =>
    have hown : pairs 7 (.call e []) = 0 := pairs_eq_zero (Nat.le_refl _)
    simp only [Phrase.opens, opens, opensAll, List.count_append, List.count_cons, List.append_assoc,
      List.cons_append, beq_self_eq_true, if_true] at ih ⊢
    omega
  | argument _ ih =>
    simp only [Phrase.opens, opensAll] at ih ⊢
    omega
  | arguments _ _ _ _ ihe ihes =>
    simp only [Phrase.opens, opensAll, List.count_append, List.count_cons, List.append_assoc,
      List.cons_append] at ihe ihes ⊢
    omega
  | number n => exact Nat.zero_le _
  | @text quote pieces _ _ =>
    have hcount := count_pieces_le pieces
    have hown : pairs 7 (.str (String.ofList (pieces.map Piece.char))) = 0 :=
      pairs_eq_zero (Nat.le_refl _)
    simp only [Phrase.opens, opens, String.toList_ofList, List.count_append, List.count_cons,
      List.cons_append, hown]
    omega
  | true => exact Nat.zero_le _
  | false => exact Nat.zero_le _
  | var _ _ _ => exact Nat.zero_le _
  | @parenthesised e g s h _ _ _ ih =>
    have hpair := pairs_le_one 7 e
    simp only [Phrase.opens, List.count_append, List.count_cons, List.append_assoc,
      List.cons_append, beq_self_eq_true, if_true] at ih ⊢
    omega

end Grammar

end Runbook

import Runbook.Proofs.Expr.Grammar

/-!
# Tokens

What the reader takes for a token is one of the grammar, and a token of the grammar is taken whole
if what follows it cannot belong to it.
-/

namespace Runbook.Grammar

/-! ## Runs of characters -/

/-- A run of such characters ends before this text. -/
def Stops (p : Char → Bool) (rest : List Char) : Prop := ∀ c t, rest = c :: t → p c = false

theorem Stops.nil {p : Char → Bool} : Stops p [] := by
  intro c t h
  simp at h

theorem Stops.cons {p : Char → Bool} {c : Char} (h : p c = false) (t : List Char) :
    Stops p (c :: t) := by
  intro c' t' heq
  rwa [← (List.cons.inj heq).1]

theorem Stops.head {p : Char → Bool} {c : Char} {t : List Char} (h : Stops p (c :: t)) :
    p c = false :=
  h c t rfl

theorem forall_mem_of_all {p : Char → Prop} [DecidablePred p] {cs : List Char}
    (h : cs.all (fun c => decide (p c)) = true) : ∀ c ∈ cs, p c := by
  simpa using h

theorem takeWhile_append_of_stops {p : Char → Bool} {run rest : List Char}
    (hrun : ∀ c ∈ run, p c = true) (hrest : Stops p rest) :
    (run ++ rest).takeWhile p = run ∧ (run ++ rest).dropWhile p = rest := by
  rw [List.takeWhile_append_of_pos hrun, List.dropWhile_append_of_pos hrun]
  cases rest with
  | nil => simp
  | cons c t => simp [hrest.head]

theorem isGap_iff {c : Char} : Expr.isGap c = true ↔ c ∈ [' ', '\t', '\r', '\n'] := by
  simp [Expr.isGap, or_assoc]

theorem Gap.nil : Gap [] := by simp [Gap]

theorem gap_skipGap (cs : List Char) : ∃ g, Gap g ∧ cs = g ++ Expr.skipGap cs := by
  refine ⟨cs.takeWhile Expr.isGap, ?_, (List.takeWhile_append_dropWhile).symm⟩
  intro c hc
  exact isGap_iff.mp (List.all_eq_true.mp List.all_takeWhile c hc)

theorem skipGap_append {g cs : List Char} (hg : Gap g) (hcs : Stops Expr.isGap cs) :
    Expr.skipGap (g ++ cs) = cs :=
  (takeWhile_append_of_stops (fun c hc => isGap_iff.mpr (hg c hc)) hcs).2

theorem skipGap_of_stops {cs : List Char} (hcs : Stops Expr.isGap cs) : Expr.skipGap cs = cs :=
  skipGap_append Gap.nil hcs

theorem skipGap_gap_append {g : List Char} (hg : Gap g) (cs : List Char) :
    Expr.skipGap (g ++ cs) = Expr.skipGap cs := by
  rw [Expr.skipGap, List.dropWhile_append_of_pos (fun c hc => isGap_iff.mpr (hg c hc))]
  rfl

/-! ## What keeps tokens apart -/

def isWordPart (c : Char) : Bool :=
  Text.isIdentifierPart c || c.isDigit || c = 'e' || c = 'E'

/-- What follows cannot belong to a number or name that ends here. -/
def Apart (rest : List Char) : Prop :=
  ∀ c t, rest = c :: t →
    isWordPart c = false ∧ (c = '.' → ∀ d u, t = d :: u → d.isDigit = false)

theorem Apart.nil : Apart [] := by
  intro c t h
  simp at h

theorem Apart.cons {c : Char} {t : List Char} (hc : isWordPart c = false) (hdot : c ≠ '.') :
    Apart (c :: t) := by
  intro c' t' h
  obtain ⟨rfl, rfl⟩ := List.cons.inj h
  exact ⟨hc, fun h => absurd h hdot⟩

theorem isWordPart_of_isGap {c : Char} (h : Expr.isGap c = true) :
    isWordPart c = false ∧ c ≠ '.' := by
  rw [isGap_iff] at h
  simp only [List.mem_cons, List.not_mem_nil, or_false] at h
  rcases h with rfl | rfl | rfl | rfl <;> decide

theorem Apart.gap_append {g rest : List Char} (hg : Gap g) (hrest : Apart rest) :
    Apart (g ++ rest) := by
  cases g with
  | nil => exact hrest
  | cons c g =>
    obtain ⟨hc, hdot⟩ := isWordPart_of_isGap (isGap_iff.mpr (hg c (by simp)))
    exact Apart.cons hc hdot

theorem Apart.not_digit {rest : List Char} (h : Apart rest) : Stops Char.isDigit rest := by
  intro c t hrest
  have := (h c t hrest).1
  simp only [isWordPart, Bool.or_eq_false_iff] at this
  exact this.1.1.2

theorem Apart.not_part {rest : List Char} (h : Apart rest) : Stops Text.isIdentifierPart rest := by
  intro c t hrest
  have := (h c t hrest).1
  simp only [isWordPart, Bool.or_eq_false_iff] at this
  exact this.1.1.1

/-! ## Operators -/

theorem after?_eq_some_iff {token cs rest : List Char} :
    Expr.after? token cs = some rest ↔ cs = token ++ rest := by
  induction token generalizing cs with
  | nil => simp [Expr.after?, eq_comm]
  | cons t token ih =>
    cases cs with
    | nil => simp [Expr.after?]
    | cons c cs =>
      rw [Expr.after?]
      split
      · rename_i htc
        rw [ih, htc]
        simp
      · rename_i htc
        simp only [reduceCtorEq, List.cons_append, List.cons.injEq, false_iff, not_and]
        intro hct
        exact absurd hct.symm htc

theorem operator?_eq_some {ops : List (String × BinaryOp)} {cs rest : List Char} {op : BinaryOp}
    (h : Expr.operator? ops cs = some (op, rest)) :
    ∃ token, (token, op) ∈ ops ∧ cs = token.toList ++ rest := by
  induction ops with
  | nil => simp [Expr.operator?] at h
  | cons first ops ih =>
    obtain ⟨token, other⟩ := first
    rw [Expr.operator?] at h
    split at h
    · rename_i tail hafter
      obtain ⟨rfl, rfl⟩ : other = op ∧ tail = rest := by simpa using h
      exact ⟨token, by simp, after?_eq_some_iff.mp hafter⟩
    · obtain ⟨token', hmem, hcs⟩ := ih h
      exact ⟨token', by simp [hmem], hcs⟩

def opsAt (rank : Nat) : List (String × BinaryOp) := (Expr.levels[rank]?).getD []

theorem levels_drop {rank : Nat} (h : rank < 6) :
    Expr.levels.drop rank = opsAt rank :: Expr.levels.drop (rank + 1) := by
  match rank, h with
  | 0, _ | 1, _ | 2, _ | 3, _ | 4, _ | 5, _ => rfl

theorem mem_opsAt {rank : Nat} {entry : String × BinaryOp} (h : entry ∈ opsAt rank) :
    entry.2.symbol = entry.1 ∧ entry.2.rank = rank := by
  by_cases hrank : rank < 6
  · exact (by decide : ∀ rank < 6, ∀ x ∈ opsAt rank, x.2.symbol = x.1 ∧ x.2.rank = rank)
      rank hrank entry h
  · have hnone : Expr.levels[rank]? = none := List.getElem?_eq_none (by simp [Expr.levels]; omega)
    simp [opsAt, hnone] at h

/-- The rank of the operators that begin with a character; what may follow an operand counts as
binding tightest. -/
def tightness : Char → Option Nat
  | '|' => some 0
  | '&' => some 1
  | '=' | '!' => some 2
  | '<' | '>' => some 3
  | '+' | '-' => some 4
  | '*' | '/' | '%' => some 5
  | '.' | '[' | '(' => some 6
  | _ => none

theorem symbol_cons (op : BinaryOp) :
    ∃ c cs, op.symbol.toList = c :: cs ∧ tightness c = some op.rank ∧ Expr.isGap c = false ∧
      isWordPart c = false ∧ c ≠ '.' := by
  cases op <;> exact ⟨_, _, rfl, rfl, by decide, by decide, by decide⟩

theorem operator?_eq_none {rank : Nat} {cs : List Char}
    (h : Stops (fun c => tightness c = some rank) cs) :
    Expr.operator? (opsAt rank) cs = none := by
  cases hop : Expr.operator? (opsAt rank) cs with
  | none => rfl
  | some read =>
    obtain ⟨op, rest⟩ := read
    obtain ⟨token, hmem, hcs⟩ := operator?_eq_some hop
    obtain ⟨htoken, hrank⟩ : op.symbol = token ∧ op.rank = rank := mem_opsAt hmem
    obtain ⟨first, tail, hsymbol, htight, -⟩ := symbol_cons op
    rw [← htoken, hsymbol, List.cons_append] at hcs
    have := h first (tail ++ rest) hcs
    simp [htight, hrank] at this

theorem operator?_symbol {op : BinaryOp} {cs : List Char} (h : Stops (· = '=') cs) :
    Expr.operator? (opsAt op.rank) (op.symbol.toList ++ cs) = some (op, cs) := by
  cases cs with
  | nil => cases op <;> rfl
  | cons c t =>
    have hc : '=' ≠ c := by
      have := h.head
      rintro rfl
      simp at this
    cases op <;> simp [opsAt, Expr.levels, Expr.operator?, Expr.after?, BinaryOp.rank,
      BinaryOp.symbol, hc]

theorem unaryOp?_eq_some_iff {c : Char} {op : UnaryOp} :
    Expr.unaryOp? c = some op ↔ c = op.symbol := by
  constructor
  · intro h
    unfold Expr.unaryOp? at h
    split at h <;> simp at h <;> subst h <;> rfl
  · rintro rfl
    cases op <;> rfl

/-! ## Names -/

theorem isIdentifier_cons {name : List Char} (h : Text.isIdentifier name = true) :
    ∃ c t, name = c :: t ∧ Text.isIdentifierStart c = true := by
  cases name with
  | nil => simp [Text.isIdentifier] at h
  | cons c t =>
    rw [Text.isIdentifier, Bool.and_eq_true] at h
    exact ⟨c, t, rfl, h.1⟩

theorem identifierStart_apart {c : Char} (h : Text.isIdentifierStart c = true) :
    c.isDigit = false ∧ c ∉ ['.', '"', '\'', '('] := by
  constructor
  · rw [Bool.eq_false_iff]
    intro hdigit
    have hrange : 48 ≤ c.toNat ∧ c.toNat ≤ 57 := by
      rw [Char.isDigit, Bool.and_eq_true, decide_eq_true_iff, decide_eq_true_iff] at hdigit
      exact hdigit
    have hc : c = Char.ofNat (48 + (c.toNat - 48)) := by
      rw [Nat.add_sub_cancel' hrange.1, Char.ofNat_toNat]
    rw [hc, (by decide : ∀ n < 10, Text.isIdentifierStart (Char.ofNat (48 + n)) = false) _
      (by omega)] at h
    simp at h
  · intro hmem
    rw [forall_mem_of_all (p := fun c => Text.isIdentifierStart c = false) (by decide) c hmem] at h
    simp at h

theorem identifier?_eq_some {cs name rest : List Char} (h : Text.identifier? cs = some (name, rest)) :
    Text.isIdentifier name = true ∧ cs = name ++ rest := by
  cases cs with
  | nil => simp [Text.identifier?] at h
  | cons c cs =>
    rw [Text.identifier?] at h
    split at h
    · rename_i hstart
      obtain ⟨rfl, rfl⟩ := Prod.mk.inj (Option.some.inj h)
      refine ⟨?_, by simp⟩
      rw [Text.isIdentifier, hstart, List.all_takeWhile]
      rfl
    · simp at h

theorem identifier?_append {name rest : List Char} (hname : Text.isIdentifier name = true)
    (hrest : Apart rest) : Text.identifier? (name ++ rest) = some (name, rest) := by
  cases name with
  | nil => simp [Text.isIdentifier] at hname
  | cons c name =>
    rw [Text.isIdentifier, Bool.and_eq_true, List.all_eq_true] at hname
    obtain ⟨hparts, hrest'⟩ := takeWhile_append_of_stops hname.2 hrest.not_part
    rw [List.cons_append, Text.identifier?, if_pos hname.1, hparts, hrest']

end Runbook.Grammar

import Runbook.Proofs.Except
import Runbook.Proofs.Expr.Literals

/-!
# What the reader accepts is derivable

Each of its functions takes a derivable text off the front of its input, and the tree it gives is
the one that the derivation builds.
-/

namespace Runbook.Grammar

/-- What each function of the reader takes off the front of its input, with so much fuel. The two
that go on after an operand are given the text of that operand. -/
structure Sound (fuel : Nat) : Prop where
  binaryFrom : ∀ {rank cs e rest}, rank ≤ 6 →
    Expr.binaryFrom fuel (Expr.levels.drop rank) cs = .ok (e, rest) →
    ∃ s, cs = s ++ rest ∧ Derives (.level rank e) s
  chain : ∀ {rank l s cs e rest}, rank < 6 → Derives (.level rank l) s →
    Expr.chain fuel (opsAt rank) (Expr.levels.drop (rank + 1)) l cs = .ok (e, rest) →
    ∃ t, cs = t ++ rest ∧ Derives (.level rank e) (s ++ t)
  prefixed : ∀ {cs e rest}, Expr.prefixed fuel cs = .ok (e, rest) →
    ∃ s, cs = s ++ rest ∧ Derives (.prefixed e) s
  primary : ∀ {cs e rest}, Expr.primary fuel cs = .ok (e, rest) →
    ∃ s, cs = s ++ rest ∧ Derives (.primary e) s
  suffixed : ∀ {o s cs e rest}, Derives (.suffixed o) s →
    Expr.suffixed fuel o cs = .ok (e, rest) →
    ∃ t, cs = t ++ rest ∧ Derives (.suffixed e) (s ++ t)
  arguments : ∀ {o s g h cs es rest}, Derives (.suffixed o) s → Gap g → Gap h →
    Expr.arguments fuel cs = .ok (es, rest) →
    ∃ t, cs = t ++ rest ∧ Derives (.suffixed (.call o es)) (s ++ g ++ '(' :: h ++ t)
  argumentRow : ∀ {cs es rest}, Expr.argumentRow fuel cs = .ok (es, rest) →
    ∃ s k, cs = s ++ k ++ [')'] ++ rest ∧ Gap k ∧ Derives (.arguments es) s

variable {fuel rank : Nat} {cs rest : List Char} {e : Expr}

theorem Sound.binaryFrom_succ (ih : Sound fuel) (hrank : rank ≤ 6)
    (h : Expr.binaryFrom (fuel + 1) (Expr.levels.drop rank) cs = .ok (e, rest)) :
    ∃ s, cs = s ++ rest ∧ Derives (.level rank e) s := by
  rcases Nat.lt_or_eq_of_le hrank with hlt | rfl
  · rw [levels_drop hlt, Expr.binaryFrom] at h
    obtain ⟨⟨left, middle⟩, hleft, hchain⟩ := ok_of_bind h
    obtain ⟨s, rfl, hs⟩ := ih.binaryFrom hlt hleft
    obtain ⟨t, rfl, ht⟩ := ih.chain hlt (.tighter hlt hs) hchain
    exact ⟨s ++ t, by simp, ht⟩
  · obtain ⟨s, rfl, hs⟩ := ih.prefixed (by simpa [Expr.levels, Expr.binaryFrom] using h)
    exact ⟨s, rfl, .prefixed hs⟩

theorem Sound.chain_succ (ih : Sound fuel) {l : Expr} {s : List Char} (hrank : rank < 6)
    (hl : Derives (.level rank l) s)
    (h : Expr.chain (fuel + 1) (opsAt rank) (Expr.levels.drop (rank + 1)) l cs = .ok (e, rest)) :
    ∃ t, cs = t ++ rest ∧ Derives (.level rank e) (s ++ t) := by
  rw [Expr.chain] at h
  split at h
  · obtain ⟨rfl, rfl⟩ : l = e ∧ cs = rest := by simpa using h
    exact ⟨[], rfl, by simpa using hl⟩
  · rename_i op after hop
    obtain ⟨token, hmem, hcs⟩ := operator?_eq_some hop
    obtain ⟨rfl, rfl⟩ : op.symbol = token ∧ op.rank = rank := mem_opsAt hmem
    obtain ⟨⟨right, middle⟩, hright, hchain⟩ := ok_of_bind h
    obtain ⟨t, ht, hr⟩ := ih.binaryFrom hrank hright
    obtain ⟨g, hg, hgap⟩ := gap_skipGap cs
    obtain ⟨k, hk, hgap'⟩ := gap_skipGap after
    -- what is read so far is the left operand of what follows
    obtain ⟨u, rfl, hu⟩ := ih.chain hrank (.binary hl hg hk hr) hchain
    refine ⟨g ++ op.symbol.toList ++ k ++ t ++ u, ?_, by simpa using hu⟩
    rw [hgap, hcs, hgap', ht]
    simp

theorem Sound.prefixed_succ (ih : Sound fuel)
    (h : Expr.prefixed (fuel + 1) cs = .ok (e, rest)) :
    ∃ s, cs = s ++ rest ∧ Derives (.prefixed e) s := by
  cases cs with
  | nil => simp [Expr.prefixed] at h
  | cons c cs =>
    rw [Expr.prefixed] at h
    split at h
    · rename_i op hop
      obtain rfl := unaryOp?_eq_some_iff.mp hop
      obtain ⟨⟨operand, after⟩, hoperand, heq⟩ := ok_of_bind h
      obtain ⟨rfl, rfl⟩ : Expr.unary op operand = e ∧ after = rest := by simpa using heq
      obtain ⟨s, hs, hd⟩ := ih.prefixed hoperand
      obtain ⟨g, hg, hgap⟩ := gap_skipGap cs
      refine ⟨op.symbol :: g ++ s, ?_, .unary hg hd⟩
      rw [hgap, hs]
      simp
    · obtain ⟨⟨operand, after⟩, hoperand, hsuffixed⟩ := ok_of_bind h
      obtain ⟨s, hs, hd⟩ := ih.primary hoperand
      obtain ⟨t, rfl, ht⟩ := ih.suffixed (.primary hd) hsuffixed
      exact ⟨s ++ t, by rw [hs]; simp, .suffixed ht⟩

theorem Sound.primary_succ (ih : Sound fuel)
    (h : Expr.primary (fuel + 1) cs = .ok (e, rest)) :
    ∃ s, cs = s ++ rest ∧ Derives (.primary e) s := by
  unfold Expr.primary at h
  split at h
  · rename_i inner
    obtain ⟨⟨operand, after⟩, hoperand, hclose⟩ := ok_of_bind h
    obtain ⟨s, hs, hd⟩ := ih.binaryFrom (Nat.zero_le 6) hoperand
    simp only at hclose
    split at hclose
    · rename_i closed hclosed
      obtain ⟨rfl, rfl⟩ : operand = e ∧ closed = rest := by simpa using hclose
      obtain ⟨g, hg, hgap⟩ := gap_skipGap inner
      obtain ⟨k, hk, hgap'⟩ := gap_skipGap after
      refine ⟨'(' :: g ++ s ++ k ++ [')'], ?_, .parenthesised hg hd hk⟩
      rw [hgap, hs, hgap', hclosed]
      simp
    · simp at hclose
  · split at h
    · rename_i read hread
      obtain rfl : read = (e, rest) := by simpa using h
      exact derives_of_atom? hread
    · simp at h

theorem Sound.suffixed_succ (ih : Sound fuel) {o : Expr} {s : List Char}
    (ho : Derives (.suffixed o) s) (h : Expr.suffixed (fuel + 1) o cs = .ok (e, rest)) :
    ∃ t, cs = t ++ rest ∧ Derives (.suffixed e) (s ++ t) := by
  obtain ⟨g, hg, hgap⟩ := gap_skipGap cs
  unfold Expr.suffixed at h
  split at h
  · rename_i after hcs
    split at h
    · rename_i name tail hread
      obtain ⟨hname, hafter⟩ := identifier?_eq_some hread
      obtain ⟨k, hk, hgap'⟩ := gap_skipGap after
      obtain ⟨u, rfl, hu⟩ := ih.suffixed (.member ho hg hk hname) h
      refine ⟨g ++ '.' :: k ++ name ++ u, ?_, by simpa using hu⟩
      rw [hgap, hcs, hgap', hafter]
      simp
    · simp at h
  · rename_i after hcs
    obtain ⟨⟨key, tail⟩, hkey, hclose⟩ := ok_of_bind h
    obtain ⟨t, ht, hd⟩ := ih.binaryFrom (Nat.zero_le 6) hkey
    simp only at hclose
    split at hclose
    · rename_i closed hclosed
      obtain ⟨k, hk, hgap'⟩ := gap_skipGap after
      obtain ⟨m, hm, hgap''⟩ := gap_skipGap tail
      obtain ⟨u, rfl, hu⟩ := ih.suffixed (.index ho hg hk hd hm) hclose
      refine ⟨g ++ '[' :: k ++ t ++ m ++ [']'] ++ u, ?_, by simpa using hu⟩
      rw [hgap, hcs, hgap', ht, hgap'', hclosed]
      simp
    · simp at hclose
  · rename_i after hcs
    obtain ⟨⟨args, tail⟩, hargs, hnext⟩ := ok_of_bind h
    obtain ⟨k, hk, hgap'⟩ := gap_skipGap after
    obtain ⟨t, ht, hd⟩ := ih.arguments ho hg hk hargs
    obtain ⟨u, rfl, hu⟩ := ih.suffixed hd hnext
    refine ⟨g ++ '(' :: k ++ t ++ u, ?_, by simpa using hu⟩
    rw [hgap, hcs, hgap', ht]
    simp
  · obtain ⟨rfl, rfl⟩ : o = e ∧ cs = rest := by simpa using h
    exact ⟨[], rfl, by simpa using ho⟩

theorem Sound.arguments_succ (ih : Sound fuel) {o : Expr} {es : List Expr} {s g k : List Char}
    (ho : Derives (.suffixed o) s) (hg : Gap g) (hk : Gap k)
    (h : Expr.arguments (fuel + 1) cs = .ok (es, rest)) :
    ∃ t, cs = t ++ rest ∧ Derives (.suffixed (.call o es)) (s ++ g ++ '(' :: k ++ t) := by
  unfold Expr.arguments at h
  split at h
  · rename_i after
    obtain ⟨rfl, rfl⟩ : [] = es ∧ after = rest := by simpa using h
    exact ⟨[')'], rfl, .callNone ho hg hk⟩
  · obtain ⟨t, m, hcs, hm, hd⟩ := ih.argumentRow h
    exact ⟨t ++ m ++ [')'], hcs, by simpa using Derives.call ho hg hk hd hm⟩

theorem Sound.argumentRow_succ (ih : Sound fuel) {es : List Expr}
    (h : Expr.argumentRow (fuel + 1) cs = .ok (es, rest)) :
    ∃ s k, cs = s ++ k ++ [')'] ++ rest ∧ Gap k ∧ Derives (.arguments es) s := by
  unfold Expr.argumentRow at h
  obtain ⟨⟨arg, tail⟩, harg, hnext⟩ := ok_of_bind h
  obtain ⟨s, rfl, hd⟩ := ih.binaryFrom (Nat.zero_le 6) harg
  obtain ⟨g, hg, hgap⟩ := gap_skipGap tail
  simp only at hnext
  split at hnext
  · rename_i after hcomma
    obtain ⟨⟨args, closed⟩, hargs, heq⟩ := ok_of_bind hnext
    obtain ⟨rfl, rfl⟩ : arg :: args = es ∧ closed = rest := by simpa using heq
    obtain ⟨t, m, ht, hm, hrow⟩ := ih.argumentRow hargs
    obtain ⟨k, hk, hgap'⟩ := gap_skipGap after
    refine ⟨s ++ g ++ ',' :: k ++ t, m, ?_, hm, .arguments hd hg hk hrow⟩
    rw [hgap, hcomma, hgap', ht]
    simp
  · rename_i closed hclosed
    obtain ⟨rfl, rfl⟩ : [arg] = es ∧ closed = rest := by simpa using hnext
    refine ⟨s, g, ?_, hg, .argument hd⟩
    rw [hgap, hclosed]
    simp
  · simp at hnext

theorem sound (fuel : Nat) : Sound fuel := by
  induction fuel with
  | zero =>
    constructor <;> intros <;> simp_all [Expr.binaryFrom, Expr.chain, Expr.prefixed, Expr.primary,
      Expr.suffixed, Expr.arguments, Expr.argumentRow]
  | succ fuel ih =>
    exact ⟨ih.binaryFrom_succ, ih.chain_succ, ih.prefixed_succ, ih.primary_succ, ih.suffixed_succ,
      ih.arguments_succ, ih.argumentRow_succ⟩

theorem expresses_of_parseChars {cs : List Char} {e : Expr} (h : Expr.parseChars cs = .ok e) :
    ∃ s g, cs = s ++ g ∧ Gap g ∧ Expresses s e := by
  unfold Expr.parseChars at h
  obtain ⟨⟨tree, rest⟩, hread, hend⟩ := ok_of_bind h
  obtain ⟨s, hs, hd⟩ := (sound _).binaryFrom (Nat.zero_le 6) hread
  simp only at hend
  split at hend
  · rename_i hnil
    obtain rfl : tree = e := by simpa using hend
    obtain ⟨g, hg, hgap⟩ := gap_skipGap rest
    rw [hnil, List.append_nil] at hgap
    exact ⟨s, g, by rw [hs, hgap], hg, hd⟩
  · simp at hend

end Runbook.Grammar

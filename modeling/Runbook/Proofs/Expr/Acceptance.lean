import Runbook.Proofs.Expr.Soundness
import Runbook.Proofs.Expr.Completeness

/-!
# The reader accepts exactly the grammar

Its order of choices, its greed and its refusal to step back lose no derivable text and misread
none.
-/

namespace Runbook

namespace Grammar

theorem isBlank_of_gap {c : Char} (h : c ∈ [' ', '\t', '\r', '\n']) : Text.isBlank c = true :=
  forall_mem_of_all (p := fun c => Text.isBlank c = true) (by decide) c h

theorem isBlank_of_trimChars {cs s : List Char} {c : Char} (h : Text.trimChars cs = s ++ [c]) :
    Text.isBlank c = false := by
  have hdrop : (Text.trimStart cs).reverse.dropWhile Text.isBlank = c :: s.reverse := by
    have := congrArg List.reverse h
    simpa [Text.trimChars, Text.trimEnd] using this
  have hblank := List.head?_dropWhile_not Text.isBlank (Text.trimStart cs).reverse
  rw [hdrop, List.head?_cons] at hblank
  simpa using hblank

theorem gap_eq_nil_of_trimChars {cs s g : List Char} (h : Text.trimChars cs = s ++ g)
    (hg : Gap g) : g = [] := by
  rcases List.eq_nil_or_concat g with hnil | ⟨front, c, rfl⟩
  · exact hnil
  · have hfirm : Text.isBlank c = false := by
      apply isBlank_of_trimChars (s := s ++ front)
      simpa using h
    rw [isBlank_of_gap (hg c (by simp))] at hfirm
    simp at hfirm

end Grammar

open Grammar

theorem parseChars_trimmed_iff {cs : List Char} {e : Expr} :
    Expr.parseChars (Text.trimChars cs) = .ok e ↔ Expresses (Text.trimChars cs) e := by
  constructor
  · intro h
    obtain ⟨s, g, hcs, hg, hd⟩ := expresses_of_parseChars h
    rw [gap_eq_nil_of_trimChars hcs hg, List.append_nil] at hcs
    rwa [hcs]
  · exact parseChars_of_expresses

theorem parse_eq_ok_iff {text : String} {e : Expr} :
    Expr.parse text = .ok e ↔ Expr.parseChars (Text.trimChars text.toList) = .ok e := by
  unfold Expr.parse
  cases h : Expr.parseChars (Text.trimChars text.toList) with
  | ok read => simp only [h, Except.ok.injEq]
  | error expected => simp only [h, reduceCtorEq]

/-- The texts that read as an expression are those that the grammar derives, each with the tree of
its only derivation; any other is a syntax error that shows the text. -/
theorem Expr.parse_iff_expresses (text : String) :
    (∀ e, Expr.parse text = .ok e ↔ Expresses (Text.trimChars text.toList) e) ∧
    (∀ e e', Expresses (Text.trimChars text.toList) e → Expresses (Text.trimChars text.toList) e' →
      e = e') ∧
    ((∀ e, ¬Expresses (Text.trimChars text.toList) e) →
      ∃ expected, Expr.parse text
        = .error ⟨String.ofList (Text.trimChars text.toList), expected⟩) := by
  have hiff : ∀ e, Expr.parse text = .ok e ↔ Expresses (Text.trimChars text.toList) e :=
    fun e => parse_eq_ok_iff.trans parseChars_trimmed_iff
  refine ⟨hiff, fun e e' h h' => ?_, fun hnone => ?_⟩
  · have heq := ((hiff e).mpr h).symm.trans ((hiff e').mpr h')
    exact Except.ok.inj heq
  · cases hread : Expr.parseChars (Text.trimChars text.toList) with
    | ok e => exact absurd (parseChars_trimmed_iff.mp hread) (hnone e)
    | error expected =>
      refine ⟨expected, ?_⟩
      unfold Expr.parse
      simp only [hread]

theorem Expr.parse_iff_expresses_mixed :
    Expresses (Text.trimChars "a!==-b".toList)
        (.binary .strictNe (.var "a") (.unary .neg (.var "b"))) ∧
      (∃ n, Expr.parse "1.e5" = .ok (.member (.num n) "e5")) ∧
      ∀ e, ¬Expresses (Text.trimChars "a.5".toList) e := by
  refine ⟨?_, ?_, fun e h => ?_⟩
  · have hread : Expr.parse "a!==-b"
        = .ok (.binary .strictNe (.var "a") (.unary .neg (.var "b"))) := by rfl
    exact ((Expr.parse_iff_expresses "a!==-b").1 _).mp hread
  · let one : Numeral := ⟨['1'], [], none, by simp [Digits], by simp [Digits], by simp⟩
    have hmember : Derives (.suffixed (.member (.num one.value) "e5")) "1.e5".toList :=
      .member (.primary (.number one)) Gap.nil Gap.nil (by decide)
    have hlevel := (Derives.suffixed hmember).level (Nat.zero_le 6)
    exact ⟨one.value, ((Expr.parse_iff_expresses "1.e5").1 _).mpr hlevel⟩
  · have hread := ((Expr.parse_iff_expresses "a.5").1 e).mpr h
    have herror : Expr.parse "a.5" = .error ⟨"a.5", .memberName⟩ := by rfl
    rw [herror] at hread
    cases hread

end Runbook

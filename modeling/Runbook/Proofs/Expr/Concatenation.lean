import Mathlib.Data.List.Forall2
import Runbook.Expr.Eval
import Runbook.Expr.Template
import Runbook.Proofs.Except

/-!
# A template means a concatenation

Its codes are read in order, and the first one that cannot be read decides the error; its value is
that of its segments added up from the left, beginning with an empty text.
-/

namespace Runbook

def Segment.operand : Segment Expr → Expr
  | .text v => .str v
  | .code e => e

def Segment.eval (get : String → Value) (part : Segment Expr) : Except EvalError Value :=
  part.operand.eval get

namespace Template

def codes (segments : List (Segment String)) : List String :=
  segments.filterMap fun
    | .code source => some source
    | .text _ => none

/-- The second segment is the first one with its code read. -/
inductive Reads : Segment String → Segment Expr → Prop where
  | text (v : String) : Reads (.text v) (.text v)
  | code {source : String} {e : Expr} (h : Expr.parse source = .ok e) :
    Reads (.code source) (.code e)

/-- `"" + s1 + s2 + ... + sn`, joined to the left. -/
def sum (parts : List (Segment Expr)) : Expr :=
  parts.foldl (fun e part => .binary .add e part.operand) (.str "")

/-! ## Reading -/

theorem parseSegment_eq_ok_iff {segment : Segment String} {part : Segment Expr} :
    parseSegment segment = .ok part ↔ Reads segment part := by
  constructor
  · intro h
    cases segment with
    | text v =>
      obtain rfl := Except.ok.inj h
      exact .text v
    | code source =>
      obtain ⟨e, he, hpart⟩ := ok_of_bind h
      obtain rfl := Except.ok.inj hpart
      exact .code he
  · rintro (v | he)
    · rfl
    · simp only [parseSegment, he]
      rfl

theorem firstError_parseSegment {segments : List (Segment String)} {err : SyntaxError} :
    FirstError parseSegment segments err ↔ FirstError Expr.parse (codes segments) err := by
  induction segments with
  | nil =>
    have hleft : ¬FirstError parseSegment [] err := not_firstError_nil
    have hright : ¬FirstError Expr.parse [] err := not_firstError_nil
    simp only [codes, List.filterMap_nil, hleft, hright]
  | cons segment rest ih =>
    cases segment with
    | text v =>
      have hv : parseSegment (.text v) = .ok (.text v) := rfl
      rw [firstError_cons_of_ok hv, ih]
      rfl
    | code source =>
      change _ ↔ FirstError Expr.parse (source :: codes rest) err
      cases hsource : Expr.parse source with
      | ok e =>
        have hcode := parseSegment_eq_ok_iff.mpr (Reads.code hsource)
        rw [firstError_cons_of_ok hcode, firstError_cons_of_ok hsource, ih]
      | error failure =>
        have hcode : parseSegment (.code source) = .error failure := by
          simp only [parseSegment, hsource]
          rfl
        rw [firstError_cons_of_error hcode, firstError_cons_of_error hsource]

theorem any_isCode {segments : List (Segment String)} (h : codes segments ≠ []) :
    segments.any isCode = true := by
  induction segments with
  | nil => simp [codes] at h
  | cons segment rest ih =>
    cases segment with
    | text v => simpa [isCode] using ih h
    | code source => simp [isCode]

theorem not_any_isCode {segments : List (Segment String)} (h : codes segments = []) :
    segments.any isCode = false := by
  induction segments with
  | nil => rfl
  | cons segment rest ih =>
    cases segment with
    | text v => simpa [isCode] using ih h
    | code source => simp [codes] at h

theorem parse_of_no_code {text : String} (h : codes (split (Text.trim text)) = []) :
    parse text = .ok (.str text) := by
  unfold parse
  split
  · rename_i source hsingle
    simp [hsingle, codes] at h
  · rw [not_any_isCode h]
    rfl

theorem parse_of_single {text source : String} (h : split (Text.trim text) = [.code source]) :
    parse text = Expr.parse source := by
  unfold parse
  rw [h]

theorem parse_of_several {text : String} (hcodes : codes (split (Text.trim text)) ≠ [])
    (hsingle : ∀ source, split (Text.trim text) ≠ [.code source]) :
    parse text = (do .ok (.template (← (split (Text.trim text)).mapM parseSegment))) := by
  unfold parse
  split
  · rename_i source h
    exact absurd h (hsingle source)
  · rw [if_pos (any_isCode hcodes)]

theorem parse_eq_error_iff {text : String} (h : codes (split (Text.trim text)) ≠ [])
    {err : SyntaxError} :
    parse text = .error err ↔ FirstError Expr.parse (codes (split (Text.trim text))) err := by
  by_cases hsingle : ∃ source, split (Text.trim text) = [.code source]
  · obtain ⟨source, hsource⟩ := hsingle
    rw [parse_of_single hsource, hsource]
    change _ ↔ FirstError Expr.parse [source] err
    cases hread : Expr.parse source with
    | ok e => simp [firstError_cons_of_ok hread, not_firstError_nil]
    | error failure => simp [firstError_cons_of_error hread]
  · rw [parse_of_several h (fun source hsource => hsingle ⟨source, hsource⟩),
      ← firstError_parseSegment, ← mapM_eq_error_iff]
    cases (split (Text.trim text)).mapM parseSegment <;> simp [bind, Except.bind]

theorem parse_eq_ok {text : String} (h : codes (split (Text.trim text)) ≠ []) {e : Expr}
    (he : parse text = .ok e) :
    ∃ parts, List.Forall₂ Reads (split (Text.trim text)) parts ∧
      (parts = [.code e] ∨ (∀ inner, parts ≠ [.code inner]) ∧ e = .template parts) := by
  by_cases hsingle : ∃ source, split (Text.trim text) = [.code source]
  · obtain ⟨source, hsource⟩ := hsingle
    rw [parse_of_single hsource] at he
    rw [hsource]
    exact ⟨[.code e], .cons (.code he) .nil, .inl rfl⟩
  · rw [parse_of_several h (fun source hsource => hsingle ⟨source, hsource⟩)] at he
    obtain ⟨parts, hparts, heq⟩ := ok_of_bind he
    have hreads : List.Forall₂ Reads (split (Text.trim text)) parts :=
      (mapM_eq_ok_iff.mp hparts).imp fun _ _ => parseSegment_eq_ok_iff.mp
    refine ⟨parts, hreads, .inr ⟨?_, (Except.ok.inj heq).symm⟩⟩
    rintro inner rfl
    generalize split (Text.trim text) = segments at hreads hsingle
    cases hreads with
    | cons hread hrest =>
      cases hrest
      cases hread
      exact hsingle ⟨_, rfl⟩

/-! ## Evaluation -/

section

variable {get : String → Value}

theorem evalParts_eq (parts : List (Segment Expr)) :
    Expr.evalParts get parts =
      (do .ok (String.join ((← parts.mapM (Segment.eval get)).map Value.display))) := by
  induction parts with
  | nil => rfl
  | cons part parts ih =>
    have hpart : Expr.evalPart get part = (do .ok (← part.eval get).display) := by
      cases part <;> rfl
    rw [Expr.evalParts, hpart, ih, List.mapM_cons]
    cases part.eval get <;> cases parts.mapM (Segment.eval get) <;>
      simp [bind, Except.bind, pure, Except.pure]

theorem eval_add_str {e : Expr} {front : String} (h : e.eval get = .ok (.str front))
    (right : Expr) :
    (Expr.binary .add e right).eval get =
      (do .ok (.str (front ++ (← right.eval get).display))) := by
  rw [Expr.eval, h]
  rfl

theorem eval_add_error {e : Expr} {err : EvalError} (h : e.eval get = .error err) (right : Expr) :
    (Expr.binary .add e right).eval get = .error err := by
  rw [Expr.eval, h]
  rfl

theorem eval_foldl_add_error (parts : List (Segment Expr)) {e : Expr} {err : EvalError}
    (h : e.eval get = .error err) :
    (parts.foldl (fun e part => .binary .add e part.operand) e).eval get = .error err := by
  induction parts generalizing e with
  | nil => exact h
  | cons part parts ih => exact ih (eval_add_error h part.operand)

theorem eval_foldl_add (parts : List (Segment Expr)) {e : Expr} {front : String}
    (h : e.eval get = .ok (.str front)) :
    (parts.foldl (fun e part => .binary .add e part.operand) e).eval get =
      (do .ok (.str (front ++ (← Expr.evalParts get parts)))) := by
  induction parts generalizing e front with
  | nil =>
    rw [List.foldl_nil, h, Expr.evalParts]
    simp [bind, Except.bind]
  | cons part parts ih =>
    have hadd := eval_add_str h part.operand
    rw [List.foldl_cons]
    cases hpart : part.operand.eval get with
    | error err =>
      rw [hpart] at hadd
      rw [eval_foldl_add_error parts hadd, evalParts_eq, List.mapM_cons, Segment.eval, hpart]
      rfl
    | ok value =>
      rw [hpart] at hadd
      rw [ih hadd, evalParts_eq, evalParts_eq, List.mapM_cons, Segment.eval, hpart]
      cases parts.mapM (Segment.eval get) <;>
        simp [bind, Except.bind, pure, Except.pure, String.append_assoc]

theorem eval_sum (parts : List (Segment Expr)) :
    (sum parts).eval get = (Expr.template parts).eval get := by
  have hempty : (Expr.str "").eval get = .ok (.str "") := by rw [Expr.eval]
  unfold sum
  rw [eval_foldl_add parts hempty, Expr.eval]
  simp

end

theorem foldl_add_str (values : List Value) (front : String) :
    values.foldl Value.add (.str front) =
      .str (front ++ String.join (values.map Value.display)) := by
  induction values generalizing front with
  | nil => simp
  | cons value values ih =>
    have hadd : Value.add (.str front) value = .str (front ++ value.display) := by
      simp [Value.add, Value.isStr, Value.display]
    rw [List.foldl_cons, hadd, ih]
    simp [String.append_assoc]

/-! ## The meaning of a template -/

/-- The result is that of adding up the segments: the texts of their values, one after another, or
the error of the first segment without a value. -/
def Concatenates (get : String → Value) (parts : List (Segment Expr)) :
    Except EvalError Value → Prop
  | .ok v => ∃ values, List.Forall₂ (fun part value => part.eval get = .ok value) parts values ∧
    v = values.foldl Value.add (.str "") ∧ v = .str (String.join (values.map Value.display))
  | .error err => FirstError (Segment.eval get) parts err

theorem concatenates_eval (get : String → Value) (parts : List (Segment Expr)) :
    Concatenates get parts ((Expr.template parts).eval get) := by
  rw [Expr.eval, evalParts_eq]
  cases hvalues : parts.mapM (Segment.eval get) with
  | error err => exact mapM_eq_error_iff.mp hvalues
  | ok values =>
    refine ⟨values, mapM_eq_ok_iff.mp hvalues, ?_, rfl⟩
    rw [foldl_add_str]
    simp

/-- A text with code in it cannot be read exactly if one of its codes cannot, and the first such
code gives the error. Else its value is the code's own if there is nothing around the code, and in
every other case the sum of the segments, which is a text. -/
theorem parse_concatenates (text : String) (hcodes : codes (split (Text.trim text)) ≠ []) :
    ((∃ err, parse text = .error err) ↔
      ∃ source ∈ codes (split (Text.trim text)), ∃ err, Expr.parse source = .error err) ∧
    (∀ err, parse text = .error err →
      FirstError Expr.parse (codes (split (Text.trim text))) err) ∧
    (∀ e, parse text = .ok e → ∃ parts, List.Forall₂ Reads (split (Text.trim text)) parts ∧
      ∀ get, (∀ inner, parts = [.code inner] → e.eval get = inner.eval get) ∧
        ((∀ inner, parts ≠ [.code inner]) →
          e.eval get = (sum parts).eval get ∧ Concatenates get parts (e.eval get))) := by
  have herror : ∀ err, parse text = .error err ↔
      FirstError Expr.parse (codes (split (Text.trim text))) err :=
    fun err => parse_eq_error_iff hcodes
  refine ⟨?_, fun err => (herror err).mp, ?_⟩
  · rw [← exists_firstError_iff]
    exact exists_congr herror
  · intro e he
    obtain ⟨parts, hreads, rfl | ⟨hseveral, rfl⟩⟩ := parse_eq_ok hcodes he
    · refine ⟨[.code e], hreads, fun get => ⟨?_, fun h => absurd rfl (h e)⟩⟩
      intro inner hinner
      obtain rfl : e = inner := by simpa using hinner
      rfl
    · refine ⟨parts, hreads, fun get => ⟨fun inner h => absurd h (hseveral inner), fun _ => ?_⟩⟩
      exact ⟨(eval_sum parts).symm, concatenates_eval get parts⟩

theorem parse_concatenates_adjacent :
    codes (split (Text.trim " \x7btrue\x7d\x7bx\x7d ")) ≠ [] ∧
      ∃ e, parse " \x7btrue\x7d\x7bx\x7d " = .ok e ∧
        ∀ get, get "x" = .bool false → e.eval get = .ok (.str "truefalse") := by
  have hsplit : split (Text.trim " \x7btrue\x7d\x7bx\x7d ") = [.code "true", .code "x"] := by
    rfl
  have htrue : Expr.parse "true" = .ok (.bool true) := by rfl
  have hvar : Expr.parse "x" = .ok (.var "x") := by rfl
  have hcodes : codes (split (Text.trim " \x7btrue\x7d\x7bx\x7d ")) ≠ [] := by
    simp [hsplit, codes]
  have hparse : parse " \x7btrue\x7d\x7bx\x7d "
      = .ok (.template [.code (.bool true), .code (.var "x")]) := by
    rw [parse_of_several hcodes (by simp [hsplit]), hsplit]
    simp [parseSegment, htrue, hvar, bind, Except.bind, pure, Except.pure]
  obtain ⟨-, -, hvalue⟩ := parse_concatenates _ hcodes
  obtain ⟨parts, hreads, hmeaning⟩ := hvalue _ hparse
  rw [hsplit] at hreads
  rcases hreads with _ | ⟨_ | h, _ | ⟨_ | h', _ | _⟩⟩
  obtain rfl := Except.ok.inj (htrue.symm.trans h)
  obtain rfl := Except.ok.inj (hvar.symm.trans h')
  refine ⟨hcodes, _, hparse, fun get hx => ?_⟩
  rw [((hmeaning get).2 (by simp)).1]
  have hempty : (Expr.str "").eval get = .ok (.str "") := by rw [Expr.eval]
  have hfirst : (Expr.bool true).eval get = .ok (.bool true) := by rw [Expr.eval]
  have hsecond : (Expr.var "x").eval get = .ok (.bool false) := by rw [Expr.eval, hx]
  have hone := eval_add_str hempty (.bool true)
  rw [hfirst] at hone
  have htwo := eval_add_str hone (.var "x")
  rw [hsecond] at htwo
  exact htwo

end Template

end Runbook

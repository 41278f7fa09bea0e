import Mathlib
import Runbook.Proofs.Expr.Concatenation
import Runbook.Proofs.Expr.Segments
import Runbook.Proofs.Expr.Writing
import Runbook.Proofs.Program.Saying

/-!
# What a strong emphasis prints

Code between braces is read from the raw text. Text without code is printed as it is rendered,
unless an opening brace that is never closed stands in the raw text, which is then printed itself,
or the rendering makes code of what was none.
-/

namespace Runbook

/-! ## Codes and blanks -/

theorem Text.exists_trim (cs : List Char) :
    ∃ front back, cs = front ++ (Text.trimChars cs ++ back) ∧
      (∀ c ∈ front, Text.isBlank c = true) ∧ ∀ c ∈ back, Text.isBlank c = true := by
  have hend : Text.trimStart cs = Text.trimChars cs ++
      ((Text.trimStart cs).reverse.takeWhile Text.isBlank).reverse := by
    rw [Text.trimChars, Text.trimEnd, ← List.reverse_append, List.takeWhile_append_dropWhile,
      List.reverse_reverse]
  refine ⟨cs.takeWhile Text.isBlank, ((Text.trimStart cs).reverse.takeWhile Text.isBlank).reverse,
    ?_, List.all_eq_true.mp List.all_takeWhile, ?_⟩
  · rw [← hend]
    exact List.takeWhile_append_dropWhile.symm
  · intro c hc
    exact List.all_eq_true.mp List.all_takeWhile c (List.mem_reverse.mp hc)

namespace Template

theorem codes_append (front rest : List (Segment String)) :
    codes (front ++ rest) = codes front ++ codes rest := List.filterMap_append

theorem codes_literalSegment (seen : List Char) : codes (literalSegment seen) = [] := by
  unfold literalSegment
  split <;> rfl

theorem codes_scan_literal (seen cs : List Char) :
    codes (scan (.literal seen) cs) = codes (scan (.literal []) cs) := by
  induction cs generalizing seen with
  | nil => simp only [scan, codes_literalSegment]
  | cons c cs ih =>
    by_cases hopen : c = '\x7b'
    · subst hopen
      simp only [scan_literal_opened, codes_append, codes_literalSegment]
    · rw [scan_literal_other hopen, scan_literal_other hopen, ih, ih [c]]

theorem codes_scan_of_no_brace {cs : List Char} (hopen : '\x7b' ∉ cs) (hclose : '\x7d' ∉ cs)
    (p : Position) : codes (scan p cs) = [] := by
  induction cs generalizing p with
  | nil =>
    cases p with
    | literal seen => rw [scan, codes_literalSegment]
    | code depth seen => rfl
  | cons c cs ih =>
    simp only [List.mem_cons, not_or] at hopen hclose
    cases p with
    | literal seen =>
      rw [scan_literal_other (Ne.symm hopen.1)]
      exact ih hopen.2 hclose.2 _
    | code depth seen =>
      rw [scan_code_other (Ne.symm hopen.1) (Ne.symm hclose.1)]
      exact ih hopen.2 hclose.2 _

theorem codes_scan_append {tail : List Char} (hopen : '\x7b' ∉ tail) (hclose : '\x7d' ∉ tail)
    (cs : List Char) (p : Position) : codes (scan p (cs ++ tail)) = codes (scan p cs) := by
  induction cs generalizing p with
  | nil =>
    rw [List.nil_append, codes_scan_of_no_brace hopen hclose]
    cases p with
    | literal seen => rw [scan, codes_literalSegment]
    | code depth seen => rfl
  | cons c cs ih =>
    rw [List.cons_append]
    cases p with
    | literal seen =>
      by_cases hc : c = '\x7b'
      · subst hc
        rw [scan_literal_opened, scan_literal_opened, codes_append, codes_append, ih]
      · rw [scan_literal_other hc, scan_literal_other hc, ih]
    | code depth seen =>
      by_cases hc : c = '\x7b'
      · subst hc
        rw [scan_code_opened, scan_code_opened, ih]
      · by_cases hc' : c = '\x7d'
        · subst hc'
          cases depth with
          | zero =>
            rw [scan_code_ended, scan_code_ended]
            exact congrArg (_ :: ·) (ih _)
          | succ depth => rw [scan_code_closed, scan_code_closed, ih]
        · rw [scan_code_other hc hc', scan_code_other hc hc', ih]

theorem codes_split_trim (text : String) : codes (split (Text.trim text)) = codes (split text) := by
  obtain ⟨front, back, htext, hfront, hback⟩ := Text.exists_trim text.toList
  -- a brace is no blank
  have hbrace : ∀ {cs : List Char} {b : Char}, (∀ c ∈ cs, Text.isBlank c = true) →
      Text.isBlank b = false → b ∉ cs := by
    intro cs b hcs hb hmem
    rw [hcs b hmem] at hb
    cases hb
  calc codes (split (Text.trim text))
      = codes (scan (.literal []) (Text.trimChars text.toList)) := by
        rw [split, Text.trim, String.toList_ofList]
    _ = codes (scan (.literal []) (Text.trimChars text.toList ++ back)) :=
        (codes_scan_append (hbrace hback rfl) (hbrace hback rfl) _ _).symm
    _ = codes (scan (.literal []) (front ++ (Text.trimChars text.toList ++ back))) := by
        rw [scan_literal_append (hbrace hfront rfl), codes_scan_literal (front.reverse ++ [])]
    _ = codes (split text) := by rw [← htext, split]

theorem codes_split_of_not_mem {text : String} (h : '\x7b' ∉ text.toList) :
    codes (split text) = [] := by
  have hscan := scan_literal_append h [] []
  rw [List.append_nil] at hscan
  rw [split, hscan, scan, codes_literalSegment]

end Template

/-! ## Characters of a line -/

namespace Text

theorem mem_of_mem_splitOn {separator c : Char} {cs piece : List Char}
    (hpiece : piece ∈ splitOn separator cs) (hc : c ∈ piece) : c ∈ cs := by
  induction cs generalizing piece with
  | nil =>
    rw [splitOn, List.mem_singleton] at hpiece
    rwa [hpiece] at hc
  | cons first rest ih =>
    rw [splitOn] at hpiece
    split at hpiece
    · rw [List.mem_singleton.mp hpiece, List.mem_singleton] at hc
      simp [hc]
    · rename_i front pieces hrest
      have hfront : ∀ {ds}, ds ∈ front :: pieces → c ∈ ds → c ∈ rest := fun hds => ih (hrest ▸ hds)
      split at hpiece
      · rcases List.mem_cons.mp hpiece with rfl | hmem
        · cases hc
        · exact List.mem_cons_of_mem _ (hfront hmem hc)
      · rcases List.mem_cons.mp hpiece with rfl | hmem
        · exact List.mem_cons.mpr ((List.mem_cons.mp hc).imp_right (hfront (by simp)))
        · exact List.mem_cons_of_mem _ (hfront (by simp [hmem]) hc)

theorem mem_of_mem_intercalate {c : Char} {separator : List Char} {lines : List (List Char)}
    (h : c ∈ separator.intercalate lines) : c ∈ separator ∨ ∃ line ∈ lines, c ∈ line := by
  induction lines with
  | nil => simp at h
  | cons line rest ih =>
    cases rest with
    | nil => exact .inr ⟨line, by simp, by simpa [List.intercalate] using h⟩
    | cons next rest =>
      rw [List.intercalate_cons_cons, List.append_assoc, List.mem_append, List.mem_append] at h
      rcases h with h | h | h
      · exact .inr ⟨line, by simp, h⟩
      · exact .inl h
      · refine (ih h).imp_right ?_
        rintro ⟨other, hother, hc⟩
        exact ⟨other, List.mem_cons_of_mem _ hother, hc⟩

theorem mem_of_mem_oneLine {c : Char} {s : String} (h : c ∈ (oneLine s).toList) :
    c = ' ' ∨ c ∈ s.toList := by
  rw [oneLine, String.toList_ofList] at h
  rcases mem_of_mem_intercalate h with hspace | ⟨line, hline, hc⟩
  · exact .inl (List.mem_singleton.mp hspace)
  · right
    obtain ⟨raw, hraw, rfl⟩ := List.mem_map.mp hline
    have hpiece : raw ∈ splitOn '\n' s.toList := by
      unfold lines at hraw
      simp only at hraw
      split at hraw
      · exact List.mem_of_mem_dropLast hraw
      · exact hraw
    exact mem_of_mem_splitOn hpiece ((trimChars_sublist raw).mem hc)

end Text

/-! ## Text literals -/

namespace Grammar

def Phrase.expr? : Phrase → Option Expr
  | .level _ e | .prefixed e | .suffixed e | .primary e => some e
  | .arguments _ => none

theorem length_le_text (pieces : List Piece) :
    pieces.length ≤ (pieces.flatMap Piece.text).length := by
  induction pieces with
  | nil => rfl
  | cons piece pieces ih =>
    rw [List.flatMap_cons, List.length_append, List.length_cons]
    cases piece with
    | plain c =>
      have : (Piece.text (.plain c)).length = 1 := rfl
      omega
    | escape c =>
      have : (Piece.text (.escape c)).length = 2 := rfl
      omega

theorem Derives.length_lt {p : Phrase} {cs : List Char} (h : Derives p cs) {v : String}
    (hv : p.expr? = some (.str v)) : v.length < cs.length := by
  induction h with
  | prefixed _ ih | tighter _ _ ih | suffixed _ ih | primary _ ih => exact ih hv
  | @text quote pieces _ _ =>
    obtain rfl : String.ofList (pieces.map Piece.char) = v := by simpa [Phrase.expr?] using hv
    have hpieces := length_le_text pieces
    simp only [String.length_ofList, List.length_map, List.length_append, List.length_cons]
    omega
  | parenthesised _ _ _ ih =>
    have := ih hv
    simp
    omega
  | _ => cases hv

end Grammar

theorem Expr.length_lt_of_parse {source v : String} (h : Expr.parse source = .ok (.str v)) :
    v.length < source.length := by
  have hlt := (expresses_of_parse h).length_lt rfl
  have hle := (Text.trimChars_sublist source.toList).length_le
  rw [String.length_toList] at hle
  omega

theorem Template.source_split (text : String) :
    (split text).flatMap Segment.source = text.toList := source_scan (.literal []) text.toList

theorem Template.parse_ne_str {text : String} (h : codes (split (Text.trim text)) ≠ []) :
    parse text ≠ .ok (.str text) := by
  intro hparse
  obtain ⟨parts, hreads, rfl | ⟨-, htemplate⟩⟩ := parse_eq_ok h hparse
  · obtain ⟨segment, rest, hread, hrest, hsplit⟩ := List.forall₂_cons_right_iff.mp hreads
    obtain rfl := List.forall₂_nil_right_iff.mp hrest
    cases hread with
    | @code code _ hcode =>
      -- the code is the text without its braces, and the text is shorter than the code
      have hlt := Expr.length_lt_of_parse hcode
      have hsource := congrArg List.length (source_split (Text.trim text))
      have hle := (Text.trimChars_sublist text.toList).length_le
      rw [hsplit] at hsource
      simp only [Segment.source, Text.trim, List.flatMap_cons, List.flatMap_nil, List.length_append,
        List.length_cons, List.length_nil, String.toList_ofList, String.length_toList] at hsource hle
      omega
  · cases htemplate

theorem Template.parse_eq_str_iff (text : String) :
    parse text = .ok (.str text) ↔ codes (split text) = [] := by
  rw [← codes_split_trim]
  refine ⟨fun hparse => ?_, parse_of_no_code⟩
  by_contra hcodes
  exact parse_ne_str hcodes hparse

/-! ## Printing -/

namespace Item

variable {content inner : List Inline} {source raw : String}

theorem ofBlock_strong (h : Inline.sole? content = some (.strong inner raw)) :
    ofBlock (.paragraph content source) =
      (do .ok (statement (.print (← Template.parse (printText inner raw))))) := by
  rw [ofBlock, ofParagraph_strong (Inline.sole?_eq_some_iff.mp h)]

theorem print_eq_ok_iff {read : Except SyntaxError Expr} {e : Expr} :
    (do .ok (statement (.print (← read)))) = (.ok (statement (.print e)) : Except SyntaxError Item) ↔
      read = .ok e := by
  cases read <;> simp [bind, Except.bind]

/-- Code in the raw line is what a strong emphasis prints. Without any it prints the rendered text,
just if the raw line has no opening brace and rendering makes no code, or has one and is the same as
the rendered text. -/
theorem ofBlock_strong_prints (h : Inline.sole? content = some (.strong inner raw)) :
    (Template.codes (Template.split (Text.oneLine raw)) ≠ [] →
      ofBlock (.paragraph content source) =
        (do .ok (statement (.print (← Template.parse (Text.oneLine raw)))))) ∧
    (Template.codes (Template.split (Text.oneLine raw)) = [] →
      (ofBlock (.paragraph content source) = .ok (statement (.print (.str (Inline.plainText inner)))) ↔
        if '\x7b' ∈ raw.toList then Text.oneLine raw = Inline.plainText inner
        else Template.codes (Template.split (Inline.plainText inner)) = [])) := by
  rw [ofBlock_strong h]
  constructor
  · intro hcodes
    have hbrace : '\x7b' ∈ raw.toList := by
      have hline : '\x7b' ∈ (Text.oneLine raw).toList := by
        by_contra hnot
        exact hcodes (Template.codes_split_of_not_mem hnot)
      exact (Text.mem_of_mem_oneLine hline).resolve_left (by decide)
    rw [printText_of_mem hbrace]
  · intro hcodes
    rw [print_eq_ok_iff]
    split_ifs with hbrace
    · rw [printText_of_mem hbrace, (Template.parse_eq_str_iff _).mpr hcodes]
      simp
    · rw [printText_of_not_mem hbrace, Template.parse_eq_str_iff]

theorem ofBlock_strong_prints_emphasis :
    (Inline.sole? [.strong [.text "a ", .emphasis [.text "b"] "b"] "a *b*"] =
        some (.strong [.text "a ", .emphasis [.text "b"] "b"] "a *b*") ∧
      ofBlock (.paragraph [.strong [.text "a ", .emphasis [.text "b"] "b"] "a *b*"] "") =
        .ok (statement (.print (.str "a b")))) ∧
    (Inline.sole? [.strong [.text "\x7bx\x7d"] "\x7bx\x7d"] =
        some (.strong [.text "\x7bx\x7d"] "\x7bx\x7d") ∧
      ofBlock (.paragraph [.strong [.text "\x7bx\x7d"] "\x7bx\x7d"] "") =
        .ok (statement (.print (.var "x")))) := by
  have hemphasis : Inline.sole? [.strong [.text "a ", .emphasis [.text "b"] "b"] "a *b*"] =
      some (.strong [.text "a ", .emphasis [.text "b"] "b"] "a *b*") := rfl
  have hcode : Inline.sole? [.strong [.text "\x7bx\x7d"] "\x7bx\x7d"] =
      some (.strong [.text "\x7bx\x7d"] "\x7bx\x7d") := rfl
  refine ⟨⟨hemphasis, ?_⟩, hcode, ?_⟩
  · have hprints := (@ofBlock_strong_prints _ _ "" _ hemphasis).2 rfl
    rw [if_neg (by decide)] at hprints
    exact hprints.mpr rfl
  · have hprints := (@ofBlock_strong_prints _ _ "" _ hcode).1 (by decide)
    exact hprints.trans rfl

/-- A brace that is never closed prints the markup, and braces that are only rendered make code. -/
theorem ofBlock_strong_not_rendered :
    (Template.codes (Template.split (Text.oneLine "a &amp; \x7bb")) = [] ∧
      ofBlock (.paragraph [.strong [.text "a & \x7bb"] "a &amp; \x7bb"] "") =
        .ok (statement (.print (.str "a &amp; \x7bb")))) ∧
    (Template.codes (Template.split (Text.oneLine "&#123;x&#125;")) = [] ∧
      ofBlock (.paragraph [.strong [.text "\x7bx\x7d"] "&#123;x&#125;"] "") =
        .ok (statement (.print (.var "x")))) := by
  refine ⟨⟨rfl, ?_⟩, rfl, ?_⟩
  · rw [ofBlock_strong rfl, printText_of_mem (by decide)]
    rfl
  · rw [ofBlock_strong rfl, printText_of_not_mem (by decide)]
    rfl

end Item

end Runbook

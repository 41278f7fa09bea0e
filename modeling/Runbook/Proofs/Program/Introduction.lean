import Runbook.Proofs.Expr.Concatenation
import Runbook.Proofs.Program.Chapters

/-!
# The blocks before the first chapter

They put nothing into the program, but they are read all the same: the first malformed expression
among them is the error of the whole document.
-/

namespace Runbook

/-! ## The expressions of a block -/

namespace Item

def headingExpressions (level : Nat) (content : List Inline) : List String :=
  if level = 2 ∧ testOf content ≠ "" then [testOf content] else []

def argumentExpressions (text : String) : List String :=
  if text.toList.all Text.isBlank then [] else (Text.splitOn ',' text.toList).map String.ofList

def paragraphExpressions (content : List Inline) (source : String) : List String :=
  match Inline.sole? content with
  | some (.strong content source) =>
    Template.codes (Template.split (Text.trim (printText content source)))
  | some (.link _ content source) =>
    argumentExpressions (Text.oneLine (Inline.sourceOr source content))
  | _ =>
    ((Assignment.parse? (Text.oneLine (Inline.sourceOr source content))).map (·.value)).toList

/-- The expressions in the text of a block, in the order in which they are read. -/
def expressions : Block → List String
  | .heading level content => headingExpressions level content
  | .paragraph content source => paragraphExpressions content source
  | .list _ _ | .quote _ | .thematicBreak | .other => []

variable {err : SyntaxError}

theorem ofHeading_eq_error_iff {level : Nat} {content : List Inline} :
    ofHeading level content = .error err ↔
      FirstError Expr.parse (headingExpressions level content) err := by
  by_cases htwo : level = 2
  · subst htwo
    rw [ofHeading_two, headingExpressions]
    by_cases htest : testOf content = ""
    · simp [htest, not_firstError_nil]
    · rw [if_neg htest, if_pos ⟨rfl, htest⟩, bind_eq_error_iff, firstError_single]
  · rw [headingExpressions, if_neg fun h => htwo h.1]
    refine iff_of_false ?_ not_firstError_nil
    by_cases hone : level = 1
    · subst hone
      simp [ofHeading]
    · simp [ofHeading_of_ne content hone htwo]

theorem parseTemplate_eq_error_iff {text : String} :
    Template.parse text = .error err ↔
      FirstError Expr.parse (Template.codes (Template.split (Text.trim text))) err := by
  by_cases hcodes : Template.codes (Template.split (Text.trim text)) = []
  · rw [hcodes, Template.parse_of_no_code hcodes]
    simp [not_firstError_nil]
  · exact Template.parse_eq_error_iff hcodes

theorem arguments_eq_error_iff {text : String} :
    arguments text = .error err ↔ FirstError Expr.parse (argumentExpressions text) err := by
  unfold arguments argumentExpressions
  split
  · simp [not_firstError_nil]
  · rw [← mapM_eq_error_iff, List.mapM_map]
    rfl

theorem ofParagraph_eq_error_iff {content : List Inline} {source : String} :
    ofParagraph content source = .error err ↔
      FirstError Expr.parse (paragraphExpressions content source) err := by
  unfold ofParagraph paragraphExpressions
  cases Inline.sole? content with
  | none =>
    cases Assignment.parse? (Text.oneLine (Inline.sourceOr source content)) with
    | none => simp [not_firstError_nil]
    | some a => simp [firstError_single, bind_eq_error_iff]
  | some i =>
    cases i with
    | strong inner raw => simp only [bind_eq_error_iff, parseTemplate_eq_error_iff]
    | link url inner raw =>
      rw [← arguments_eq_error_iff]
      simp only [bind_eq_error_iff]
    | text v | code v | emphasis inner raw | lineBreak =>
      cases Assignment.parse? (Text.oneLine (Inline.sourceOr source content)) with
      | none => simp [not_firstError_nil]
      | some a => simp [firstError_single, bind_eq_error_iff]

theorem ofBlock_eq_error_iff (b : Block) (err : SyntaxError) :
    ofBlock b = .error err ↔ FirstError Expr.parse (expressions b) err := by
  cases b with
  | heading level content => rw [ofBlock, expressions, ofHeading_eq_error_iff]
  | paragraph content source => rw [ofBlock, expressions, ofParagraph_eq_error_iff]
  | list ordered items => cases ordered <;> simp [ofBlock, expressions, not_firstError_nil]
  | quote blocks | thematicBreak | other => simp [ofBlock, expressions, not_firstError_nil]

theorem mapM_ofBlock_eq_error_iff {blocks : List Block} :
    blocks.mapM ofBlock = .error err ↔ FirstError Expr.parse (blocks.flatMap expressions) err := by
  rw [mapM_eq_error_iff, firstError_flatMap ofBlock_eq_error_iff]

theorem not_function_of_ofBlock {b : Block} {item : Item} (hread : ofBlock b = .ok item)
    (hb : ∀ content, b ≠ .heading 1 content) : ∀ name, item ≠ .function name := by
  rintro name rfl
  cases ofBlock_eq_ok_iff.mp hread with
  | function content => exact hb content rfl

end Item

/-! ## Documents -/

namespace Program

theorem ofItems_append {items : List Item} (h : ∀ item ∈ items, ∀ name, item ≠ .function name)
    (rest : List Item) (baseDir : String) :
    ofItems baseDir (items ++ rest) = ofItems baseDir rest := by
  rw [ofItems, List.foldl_append, Outline.foldl_add_of_ne_function h]
  rfl

theorem ofDocument_append {preface : List Block} {items : List Item}
    (hread : preface.mapM Item.ofBlock = .ok items)
    (h : ∀ b ∈ preface, ∀ content, b ≠ .heading 1 content) (body : List Block) (baseDir : String) :
    ofDocument ⟨preface ++ body⟩ baseDir = ofDocument ⟨body⟩ baseDir := by
  have hitems : ∀ item ∈ items, ∀ name, item ≠ .function name := by
    intro item hitem
    rw [Block.items_of_mapM hread] at hitem
    obtain ⟨b, hb, hsaid⟩ := List.mem_filterMap.mp hitem
    obtain ⟨said, hb'⟩ := ok_of_mem_mapM hread b hb
    obtain rfl : said = item := by simpa [hb', Except.toOption] using hsaid
    exact Item.not_function_of_ofBlock hb' (h b hb)
  simp only [ofDocument, List.mapM_append, hread]
  cases body.mapM Item.ofBlock with
  | error err => rfl
  | ok rest => exact congrArg Except.ok (ofItems_append hitems rest baseDir)

theorem ofDocument_of_malformed {preface : List Block} {err : SyntaxError}
    (h : preface.mapM Item.ofBlock = .error err) (body : List Block) (baseDir : String) :
    ofDocument ⟨preface ++ body⟩ baseDir = .error err := by
  simp only [ofDocument, List.mapM_append, h]
  rfl

/-- The first malformed expression before the first chapter is the error of the document. So a
document means the same without those blocks just if they have no malformed expression, or if the
rest of the document has the same error. -/
theorem ofDocument_preface {preface : List Block}
    (h : ∀ b ∈ preface, ∀ content, b ≠ .heading 1 content) (body : List Block) (baseDir : String) :
    (∀ err, FirstError Expr.parse (preface.flatMap Item.expressions) err →
      ofDocument ⟨preface ++ body⟩ baseDir = .error err) ∧
    (ofDocument ⟨preface ++ body⟩ baseDir = ofDocument ⟨body⟩ baseDir ↔
      ∀ err, FirstError Expr.parse (preface.flatMap Item.expressions) err →
        ofDocument ⟨body⟩ baseDir = .error err) := by
  simp only [← Item.mapM_ofBlock_eq_error_iff]
  cases hread : preface.mapM Item.ofBlock with
  | error failure =>
    rw [ofDocument_of_malformed hread]
    simp [eq_comm]
  | ok items => simp [ofDocument_append hread h]

theorem ofDocument_preface_inert :
    let preface : List Block := [.ofParagraph [.text "Notes"], .ofParagraph [.text "x = y"],
      .heading 2 [.ofEmphasis [.text "x"]], .list false [[.text "a"]],
      .quote [.ofParagraph [.text "z"]], .thematicBreak]
    let body : List Block := [.heading 1 [.text "main"], .quote [.ofParagraph [.text "z"]]]
    (∀ b ∈ preface, ∀ content, b ≠ .heading 1 content) ∧
      ofDocument ⟨preface ++ body⟩ "" = ofDocument ⟨body⟩ "" := by
  intro preface body
  have hpreface : ∀ b ∈ preface, ∀ content, b ≠ .heading 1 content := by
    simp [preface, Block.ofParagraph]
  refine ⟨hpreface, (ofDocument_preface hpreface body "").2.mpr fun err herr => ?_⟩
  have hexpressions : preface.flatMap Item.expressions = ["y", "x"] := by rfl
  have hread : (preface.flatMap Item.expressions).mapM Expr.parse = .ok [.var "y", .var "x"] := by
    rw [hexpressions]
    rfl
  rw [← mapM_eq_error_iff, hread] at herr
  cases herr

/-- A document that is a program, and is rejected for a line before its first chapter. -/
theorem ofDocument_malformed_preface :
    let preface : List Block := [.ofParagraph [.text "x = y z"]]
    let body : List Block := [.heading 1 [.text "main"]]
    (∀ b ∈ preface, ∀ content, b ≠ .heading 1 content) ∧
      (∃ p, ofDocument ⟨body⟩ "" = .ok p) ∧ ∃ err, ofDocument ⟨preface ++ body⟩ "" = .error err := by
  intro preface body
  refine ⟨by simp [preface, Block.ofParagraph], ⟨_, rfl⟩, ⟨"y z", .continuation true⟩, ?_⟩
  have hexpressions : preface.flatMap Item.expressions = ["y z"] := by rfl
  have hread : Expr.parse "y z" = .error ⟨"y z", .continuation true⟩ := by rfl
  refine ofDocument_of_malformed (Item.mapM_ofBlock_eq_error_iff.mpr ?_) body ""
  rw [hexpressions]
  exact firstError_single.mpr hread

end Program

end Runbook

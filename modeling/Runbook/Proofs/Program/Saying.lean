import Mathlib.Data.List.TakeWhile
import Runbook.Program.Item
import Runbook.Proofs.Except

/-!
# What blocks say

The forms that have a meaning in the language, each by the block it is written as; every other
block says nothing. Reading a block finds just what it says, and fails if it has one of the forms
and a malformed expression in it.
-/

namespace Runbook

/-! ## Parts of a block -/

namespace Inline

def Alone (content : List Inline) (i : Inline) : Prop :=
  ∃ before after, content = before ++ i :: after ∧ i.isBlank = false ∧
    ∀ other ∈ before ++ after, other.isBlank = true

theorem sole?_eq_some_iff {content : List Inline} {i : Inline} :
    sole? content = some i ↔ Alone content i := by
  have hsole : sole? content = some i ↔ content.filter (!·.isBlank) = [i] := by
    unfold sole?
    split <;> simp_all
  rw [hsole, List.filter_eq_cons_iff]
  unfold Alone
  simp only [Bool.not_eq_true', Bool.not_eq_false, List.filter_eq_nil_iff, List.forall_mem_append]
  constructor
  · rintro ⟨before, after, hcontent, hbefore, hi, hafter⟩
    exact ⟨before, after, hcontent, hi, hbefore, hafter⟩
  · rintro ⟨before, after, hcontent, hi, hbefore, hafter⟩
    exact ⟨before, after, hcontent, hbefore, hi, hafter⟩

def Unmarked (content : List Inline) : Prop :=
  (∀ inner raw, ¬Alone content (.strong inner raw)) ∧
    ∀ url inner raw, ¬Alone content (.link url inner raw)

mutual

def emphases : Inline → List String
  | emphasis content source => [sourceOr source content]
  | strong content _ => emphasesIn content
  | link _ content _ => emphasesIn content
  | _ => []

def emphasesIn : List Inline → List String
  | [] => []
  | i :: rest => emphases i ++ emphasesIn rest

end

mutual

theorem emphasized?_eq (i : Inline) : emphasized? i = (emphases i).head? := by
  cases i with
  | strong content source => rw [emphasized?, emphases, firstEmphasis?_eq]
  | link url content source => rw [emphasized?, emphases, firstEmphasis?_eq]
  | emphasis content source | text v | code v | lineBreak => rfl

theorem firstEmphasis?_eq (content : List Inline) :
    firstEmphasis? content = (emphasesIn content).head? := by
  cases content with
  | nil => rfl
  | cons i rest =>
    rw [firstEmphasis?, emphasesIn, List.head?_append, emphasized?_eq, firstEmphasis?_eq]
    cases (emphases i).head? <;> rfl

end

end Inline

namespace Text

/-- The pieces hold no separator, and the text is the pieces with one between each two. -/
def Divides (separator : Char) (pieces : List (List Char)) (cs : List Char) : Prop :=
  pieces ≠ [] ∧ (∀ piece ∈ pieces, separator ∉ piece) ∧ [separator].intercalate pieces = cs

variable {separator : Char}

theorem splitOn_ne_nil (cs : List Char) : splitOn separator cs ≠ [] := by
  cases cs with
  | nil => simp [splitOn]
  | cons c rest =>
    rw [splitOn]
    split
    · simp
    · split <;> simp

theorem splitOn_separator (cs : List Char) :
    splitOn separator (separator :: cs) = [] :: splitOn separator cs := by
  rw [splitOn]
  split
  · rename_i hnil
    exact absurd hnil (splitOn_ne_nil cs)
  · rename_i piece pieces hcs
    rw [if_pos rfl, hcs]

theorem splitOn_cons {c : Char} (hc : c ≠ separator) {cs piece : List Char}
    {pieces : List (List Char)} (h : splitOn separator cs = piece :: pieces) :
    splitOn separator (c :: cs) = (c :: piece) :: pieces := by
  rw [splitOn, h]
  exact if_neg hc

theorem divides_splitOn (cs : List Char) : Divides separator (splitOn separator cs) cs := by
  induction cs with
  | nil => exact ⟨by simp [splitOn], by simp [splitOn], by simp [splitOn]⟩
  | cons c cs ih =>
    obtain ⟨hne, hfree, hjoin⟩ := ih
    obtain ⟨piece, pieces, hcs⟩ := List.exists_cons_of_ne_nil hne
    by_cases hc : c = separator
    · subst hc
      rw [splitOn_separator]
      refine ⟨by simp, by simpa using hfree, ?_⟩
      rw [hcs, List.intercalate_cons_cons, ← hcs, hjoin]
      rfl
    · rw [splitOn_cons hc hcs]
      rw [hcs] at hfree hjoin
      refine ⟨by simp, ?_, ?_⟩
      · rw [List.forall_mem_cons] at hfree ⊢
        rw [List.mem_cons, not_or]
        exact ⟨⟨Ne.symm hc, hfree.1⟩, hfree.2⟩
      · rw [← hjoin]
        cases pieces <;> simp [List.intercalate_cons_cons]

theorem splitOn_of_free {piece : List Char} (h : separator ∉ piece) :
    splitOn separator piece = [piece] := by
  induction piece with
  | nil => rfl
  | cons c rest ih =>
    rw [List.mem_cons, not_or] at h
    exact splitOn_cons (Ne.symm h.1) (ih h.2)

theorem splitOn_append {piece : List Char} (h : separator ∉ piece) (cs : List Char) :
    splitOn separator (piece ++ separator :: cs) = piece :: splitOn separator cs := by
  induction piece with
  | nil => exact splitOn_separator cs
  | cons c rest ih =>
    rw [List.mem_cons, not_or] at h
    exact splitOn_cons (Ne.symm h.1) (ih h.2)

theorem splitOn_eq_iff {cs : List Char} {pieces : List (List Char)} :
    splitOn separator cs = pieces ↔ Divides separator pieces cs := by
  constructor
  · rintro rfl
    exact divides_splitOn cs
  · rintro ⟨hne, hfree, rfl⟩
    induction pieces with
    | nil => exact absurd rfl hne
    | cons piece rest ih =>
      rw [List.forall_mem_cons] at hfree
      cases rest with
      | nil => simpa using splitOn_of_free hfree.1
      | cons next rest =>
        rw [List.intercalate_cons_cons, List.append_assoc, List.singleton_append,
          splitOn_append hfree.1, ih (by simp) hfree.2]

end Text

theorem variableName?_eq_some_iff {text name : String} :
    variableName? text = some name ↔
      Text.trim text = name ∧ Text.isIdentifier name.toList = true := by
  unfold variableName? Text.trim
  constructor
  · intro h
    simp only at h
    split at h
    · rename_i hname
      obtain rfl := Option.some.inj h
      exact ⟨rfl, by rwa [String.toList_ofList]⟩
    · cases h
  · rintro ⟨rfl, hname⟩
    rw [String.toList_ofList] at hname
    exact if_pos hname

namespace Item

/-- `#name` and `name` are in the same program, `file#name` is in another. -/
inductive PointsTo : String → Option String → String → Prop where
  | bare {name : String} (h : '#' ∉ name.toList) : PointsTo name none name
  | here (name : String) : PointsTo ("#" ++ name) none name
  | away {file : String} (h : '#' ∉ file.toList) (hne : file ≠ "") (name : String) :
    PointsTo (file ++ "#" ++ name) (some file) name

theorem ne_of_free {mark : Char} {cs : List Char} (h : mark ∉ cs) :
    ∀ c ∈ cs, decide (c ≠ mark) = true := by
  intro c hc
  refine decide_eq_true fun heq => h ?_
  rwa [← heq]

theorem target_of_free {url : String} (h : '#' ∉ url.toList) : target url = (none, url) := by
  have hrest : url.toList.dropWhile (· ≠ '#') = [] := by
    rw [List.dropWhile_eq_nil_iff]
    exact ne_of_free h
  simp only [target, hrest]

theorem target_of_mark {url : String} (file name : List Char) (h : '#' ∉ file)
    (hurl : url.toList = file ++ '#' :: name) :
    target url = (if file.isEmpty then none else some (String.ofList file), String.ofList name) := by
  have hfile : url.toList.takeWhile (· ≠ '#') = file := by
    rw [hurl, List.takeWhile_append_of_pos (ne_of_free h)]
    simp
  have hrest : url.toList.dropWhile (· ≠ '#') = '#' :: name := by
    rw [hurl, List.dropWhile_append_of_pos (ne_of_free h)]
    simp
  simp only [target, hfile, hrest]

theorem target_eq_iff {url : String} {file : Option String} {name : String} :
    target url = (file, name) ↔ PointsTo url file name := by
  constructor
  · intro h
    by_cases hmark : '#' ∈ url.toList
    · obtain ⟨front, rest, hurl, hfront⟩ := List.eq_append_cons_of_mem hmark
      rw [target_of_mark front rest hfront hurl] at h
      obtain ⟨rfl, rfl⟩ := Prod.mk.inj h
      cases front with
      | nil =>
        obtain rfl : url = "#" ++ String.ofList rest := by
          rw [← String.toList_inj, hurl]
          simp
        exact .here _
      | cons c front =>
        obtain rfl : url = String.ofList (c :: front) ++ "#" ++ String.ofList rest := by
          rw [← String.toList_inj, hurl]
          simp
        refine .away (by rwa [String.toList_ofList]) (fun hempty => ?_) _
        have hnil := congrArg String.toList hempty
        rw [String.toList_ofList] at hnil
        cases hnil
    · rw [target_of_free hmark] at h
      obtain ⟨rfl, rfl⟩ := Prod.mk.inj h
      exact .bare hmark
  · intro h
    cases h with
    | bare h => exact target_of_free h
    | here =>
      rw [target_of_mark [] name.toList (by simp) (by simp)]
      simp
    | @away file h hne =>
      rw [target_of_mark file.toList name.toList h (by simp)]
      simp [hne]

/-- The pieces between commas are the arguments; a blank text has none. -/
inductive Lists (text : String) : List Expr → Prop where
  | blank (h : ∀ c ∈ text.toList, Text.isBlank c = true) : Lists text []
  | pieces {pieces : List (List Char)} {args : List Expr}
    (hvisible : ∃ c ∈ text.toList, Text.isBlank c = false) (h : Text.Divides ',' pieces text.toList)
    (hargs : List.Forall₂ (fun piece arg => Expr.parse (String.ofList piece) = .ok arg) pieces args) :
    Lists text args

theorem arguments_eq_ok_iff {text : String} {args : List Expr} :
    arguments text = .ok args ↔ Lists text args := by
  unfold arguments
  by_cases hblank : ∀ c ∈ text.toList, Text.isBlank c = true
  · rw [if_pos (List.all_eq_true.mpr hblank), Except.ok.injEq]
    constructor
    · rintro rfl
      exact .blank hblank
    · rintro (_ | ⟨⟨c, hc, hvisible⟩, -, -⟩)
      · rfl
      · simp [hblank c hc] at hvisible
  · rw [if_neg (mt List.all_eq_true.mp hblank), mapM_eq_ok_iff]
    constructor
    · intro h
      exact .pieces (by simpa using hblank) (Text.divides_splitOn _) h
    · rintro (h | ⟨-, h, hargs⟩)
      · exact absurd h hblank
      · rwa [Text.splitOn_eq_iff.mpr h]

def Asks (blocks : List Block) (name : String) : Prop :=
  ∃ before content source after, blocks = before ++ .paragraph content source :: after ∧
    (∀ b ∈ before, ∀ content source, b ≠ .paragraph content source) ∧
    Text.trim (Inline.plainText content) = name ∧ Text.isIdentifier name.toList = true

theorem paragraphText?_eq_none_iff {b : Block} :
    paragraphText? b = none ↔ ∀ content source, b ≠ .paragraph content source := by
  cases b <;> simp [paragraphText?]

theorem asks_iff {blocks : List Block} {name : String} :
    variableName? ((blocks.findSome? paragraphText?).getD "") = some name ↔ Asks blocks name := by
  constructor
  · intro h
    cases hfirst : blocks.findSome? paragraphText? with
    | none =>
      rw [hfirst] at h
      cases h
    | some text =>
      rw [hfirst, Option.getD_some, variableName?_eq_some_iff] at h
      obtain ⟨before, b, after, hblocks, htext, hbefore⟩ := List.findSome?_eq_some_iff.mp hfirst
      cases b with
      | paragraph content source =>
        obtain rfl := Option.some.inj htext
        exact ⟨before, content, source, after, hblocks,
          fun b hb => paragraphText?_eq_none_iff.mp (hbefore b hb), h⟩
      | heading level content | list ordered entries | quote inner | thematicBreak | other =>
        cases htext
  · rintro ⟨before, content, source, after, rfl, hbefore, hname⟩
    have hfirst : (before ++ .paragraph content source :: after).findSome? paragraphText? =
        some (Inline.plainText content) := by
      rw [List.findSome?_eq_some_iff]
      exact ⟨before, _, after, rfl, rfl, fun b hb => paragraphText?_eq_none_iff.mpr (hbefore b hb)⟩
    rw [hfirst, Option.getD_some, variableName?_eq_some_iff]
    exact hname

/-! ## Blocks -/

def testOf (content : List Inline) : String := Text.oneLine ((Inline.emphasesIn content).headD "")

/-- What a block says. A strong emphasis prints its raw line if a brace opens in it, and its
rendered text otherwise; the arguments of a link and an assignment are read from the raw line, or
from the rendered text if no raw text was recorded. -/
inductive Says : Block → Item → Prop where
  | function (content : List Inline) :
    Says (.heading 1 content) (.function (Text.trim (Inline.plainText content)))
  | guard {content : List Inline} {test : Expr} (hne : testOf content ≠ "")
    (h : Expr.parse (testOf content) = .ok test) : Says (.heading 2 content) (.guard test)
  | title {content : List Inline} (h : testOf content = "") : Says (.heading 2 content) .nothing
  | subtitle {level : Nat} (content : List Inline) (hone : level ≠ 1) (htwo : level ≠ 2) :
    Says (.heading level content) .nothing
  | printCode {content inner : List Inline} {source raw : String} {e : Expr}
    (halone : Inline.Alone content (.strong inner raw)) (hbrace : '\x7b' ∈ raw.toList)
    (h : Template.parse (Text.oneLine raw) = .ok e) :
    Says (.paragraph content source) (.statement (.print e))
  | printText {content inner : List Inline} {source raw : String} {e : Expr}
    (halone : Inline.Alone content (.strong inner raw)) (hbrace : '\x7b' ∉ raw.toList)
    (h : Template.parse (Inline.plainText inner) = .ok e) :
    Says (.paragraph content source) (.statement (.print e))
  | call {content inner : List Inline} {source raw url name : String} {file : Option String}
    {args : List Expr} (halone : Inline.Alone content (.link url inner raw))
    (htarget : PointsTo url file name)
    (hargs : Lists (Text.oneLine (Inline.sourceOr raw inner)) args) :
    Says (.paragraph content source) (.statement (.call name file args))
  | assign {content : List Inline} {source : String} {a : Assignment} {value : Expr}
    (hplain : Inline.Unmarked content)
    (h : Assignment.parse? (Text.oneLine (Inline.sourceOr source content)) = some a)
    (hvalue : Expr.parse a.value = .ok value) :
    Says (.paragraph content source) (.statement (.assign a.name a.op value))
  | prose {content : List Inline} {source : String} (hplain : Inline.Unmarked content)
    (h : Assignment.parse? (Text.oneLine (Inline.sourceOr source content)) = none) :
    Says (.paragraph content source) .nothing
  | params (entries : List (List Inline)) : Says (.list false entries) (.params (paramNames entries))
  | enumeration (entries : List (List Inline)) : Says (.list true entries) .nothing
  | ask {blocks : List Block} {name : String} (h : Asks blocks name) :
    Says (.quote blocks) (.statement (.ask name))
  | quotation {blocks : List Block} (h : ∀ name, ¬Asks blocks name) : Says (.quote blocks) .nothing
  | leave : Says .thematicBreak .leave
  | other : Says .other .nothing

theorem ofHeading_two (content : List Inline) :
    ofHeading 2 content = if testOf content = "" then .ok nothing
      else (do .ok (guard (← Expr.parse (testOf content)))) := by
  simp only [ofHeading, String.isEmpty_iff, testOf, Inline.firstEmphasis?_eq,
    List.headD_eq_head?_getD]

theorem ofHeading_of_ne {level : Nat} (content : List Inline) (hone : level ≠ 1) (htwo : level ≠ 2) :
    ofHeading level content = .ok nothing := by
  unfold ofHeading
  split
  · exact absurd rfl hone
  · exact absurd rfl htwo
  · rfl

theorem ofHeading_eq_ok_iff {level : Nat} {content : List Inline} {item : Item} :
    ofHeading level content = .ok item ↔ Says (.heading level content) item := by
  constructor
  · intro h
    by_cases hone : level = 1
    · subst hone
      obtain rfl := Except.ok.inj h
      exact .function content
    by_cases htwo : level = 2
    · subst htwo
      rw [ofHeading_two] at h
      split at h
      · rename_i htest
        obtain rfl := Except.ok.inj h
        exact .title htest
      · rename_i htest
        obtain ⟨test, hparse, rfl⟩ := bind_eq_ok_iff.mp h
        exact .guard htest hparse
    · rw [ofHeading_of_ne content hone htwo] at h
      obtain rfl := Except.ok.inj h
      exact .subtitle content hone htwo
  · intro h
    cases h with
    | function => rfl
    | guard hne hparse =>
      rw [ofHeading_two, if_neg hne]
      exact bind_eq_ok_iff.mpr ⟨_, hparse, rfl⟩
    | title htest => rw [ofHeading_two, if_pos htest]
    | subtitle _ hone htwo => exact ofHeading_of_ne content hone htwo

variable {content inner : List Inline} {source raw : String}

theorem printText_of_mem (h : '\x7b' ∈ raw.toList) : printText inner raw = Text.oneLine raw := by
  simp [printText, String.contains_char_eq, h]

theorem printText_of_not_mem (h : '\x7b' ∉ raw.toList) :
    printText inner raw = Inline.plainText inner := by
  simp [printText, String.contains_char_eq, h]

theorem ofParagraph_strong (h : Inline.Alone content (.strong inner raw)) :
    ofParagraph content source =
      (do .ok (statement (.print (← Template.parse (printText inner raw))))) := by
  rw [ofParagraph, Inline.sole?_eq_some_iff.mpr h]

theorem ofParagraph_link {url : String} (h : Inline.Alone content (.link url inner raw)) :
    ofParagraph content source = (do .ok (statement (.call (target url).2 (target url).1
      (← arguments (Text.oneLine (Inline.sourceOr raw inner)))))) := by
  rw [ofParagraph, Inline.sole?_eq_some_iff.mpr h]

theorem ofParagraph_unmarked (h : Inline.Unmarked content) :
    ofParagraph content source =
      match Assignment.parse? (Text.oneLine (Inline.sourceOr source content)) with
      | some a => do .ok (statement (.assign a.name a.op (← Expr.parse a.value)))
      | none => .ok nothing := by
  unfold ofParagraph
  split
  · rename_i hsole
    exact absurd (Inline.sole?_eq_some_iff.mp hsole) (h.1 _ _)
  · rename_i hsole
    exact absurd (Inline.sole?_eq_some_iff.mp hsole) (h.2 _ _ _)
  · cases Assignment.parse? (Text.oneLine (Inline.sourceOr source content)) <;> rfl

theorem says_of_ofParagraph {item : Item} (h : ofParagraph content source = .ok item) :
    Says (.paragraph content source) item := by
  by_cases hstrong : ∃ inner raw, Inline.Alone content (.strong inner raw)
  · obtain ⟨inner, raw, halone⟩ := hstrong
    rw [ofParagraph_strong halone] at h
    obtain ⟨e, he, rfl⟩ := bind_eq_ok_iff.mp h
    by_cases hbrace : '\x7b' ∈ raw.toList
    · exact .printCode halone hbrace (printText_of_mem hbrace ▸ he)
    · exact .printText halone hbrace (printText_of_not_mem hbrace ▸ he)
  by_cases hlink : ∃ url inner raw, Inline.Alone content (.link url inner raw)
  · obtain ⟨url, inner, raw, halone⟩ := hlink
    rw [ofParagraph_link halone] at h
    obtain ⟨args, hargs, rfl⟩ := bind_eq_ok_iff.mp h
    exact .call halone (target_eq_iff.mp rfl) (arguments_eq_ok_iff.mp hargs)
  have hplain : Inline.Unmarked content :=
    ⟨fun inner raw h => hstrong ⟨inner, raw, h⟩, fun url inner raw h => hlink ⟨url, inner, raw, h⟩⟩
  rw [ofParagraph_unmarked hplain] at h
  split at h
  · rename_i a ha
    obtain ⟨value, hvalue, rfl⟩ := bind_eq_ok_iff.mp h
    exact .assign hplain ha hvalue
  · rename_i hnone
    obtain rfl := Except.ok.inj h
    exact .prose hplain hnone

theorem ofParagraph_eq_ok_iff {item : Item} :
    ofParagraph content source = .ok item ↔ Says (.paragraph content source) item := by
  refine ⟨says_of_ofParagraph, fun h => ?_⟩
  cases h with
  | printCode halone hbrace h =>
    rw [ofParagraph_strong halone, printText_of_mem hbrace]
    exact bind_eq_ok_iff.mpr ⟨_, h, rfl⟩
  | printText halone hbrace h =>
    rw [ofParagraph_strong halone, printText_of_not_mem hbrace]
    exact bind_eq_ok_iff.mpr ⟨_, h, rfl⟩
  | call halone htarget hargs =>
    rw [ofParagraph_link halone, target_eq_iff.mpr htarget]
    exact bind_eq_ok_iff.mpr ⟨_, arguments_eq_ok_iff.mpr hargs, rfl⟩
  | assign hplain h hvalue =>
    rw [ofParagraph_unmarked hplain, h]
    exact bind_eq_ok_iff.mpr ⟨_, hvalue, rfl⟩
  | prose hplain h => rw [ofParagraph_unmarked hplain, h]

theorem ofQuote_eq_iff {blocks : List Block} {item : Item} :
    ofQuote blocks = item ↔ Says (.quote blocks) item := by
  constructor
  · rintro rfl
    unfold ofQuote
    split
    · rename_i name hname
      exact .ask (asks_iff.mp hname)
    · rename_i hnone
      refine .quotation fun name hname => ?_
      rw [asks_iff.mpr hname] at hnone
      cases hnone
  · intro h
    unfold ofQuote
    cases h with
    | ask h => rw [asks_iff.mpr h]
    | quotation h =>
      split
      · rename_i name hname
        exact absurd (asks_iff.mp hname) (h name)
      · rfl

theorem ofBlock_eq_ok_iff {b : Block} {item : Item} : ofBlock b = .ok item ↔ Says b item := by
  cases b with
  | heading level content => rw [ofBlock, ofHeading_eq_ok_iff]
  | paragraph content source => rw [ofBlock, ofParagraph_eq_ok_iff]
  | list ordered entries =>
    cases ordered with
    | false =>
      constructor
      · rintro ⟨⟩
        exact .params entries
      · rintro ⟨⟩
        rfl
    | true =>
      constructor
      · rintro ⟨⟩
        exact .enumeration entries
      · rintro ⟨⟩
        rfl
  | quote blocks => rw [ofBlock, Except.ok.injEq, ofQuote_eq_iff]
  | thematicBreak =>
    constructor
    · rintro ⟨⟩
      exact .leave
    · rintro ⟨⟩
      rfl
  | other =>
    constructor
    · rintro ⟨⟩
      exact .other
    · rintro ⟨⟩
      rfl

theorem mapM_ofBlock_eq_ok_iff {blocks : List Block} {items : List Item} :
    blocks.mapM ofBlock = .ok items ↔ List.Forall₂ Says blocks items := by
  rw [mapM_eq_ok_iff]
  constructor
  · exact List.Forall₂.imp fun _ _ => ofBlock_eq_ok_iff.mp
  · exact List.Forall₂.imp fun _ _ => ofBlock_eq_ok_iff.mpr

end Item

end Runbook

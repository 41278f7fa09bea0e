import Runbook.Proofs.Program.Insertion
import Runbook.Proofs.Program.Saying

/-!
# A document cut at its headings of the first level

Each chapter is a function, a later one of a name takes the place of an earlier one, and nothing
else is in the program.
-/

namespace Runbook

/-- A heading of the first level, and the blocks up to the next one. -/
structure Chapter where
  name : String
  blocks : List Block

namespace Block

def cut : List Block → List Block × List Chapter
  | [] => ([], [])
  | .heading 1 content :: rest =>
    ([], ⟨Text.trim (Inline.plainText content), (cut rest).1⟩ :: (cut rest).2)
  | b :: rest => (b :: (cut rest).1, (cut rest).2)

def items (blocks : List Block) : List Item :=
  blocks.filterMap fun b => (Item.ofBlock b).toOption

def parameters (blocks : List Block) : List String :=
  blocks.flatMap fun
    | .list false entries =>
      (entries.map fun entry => Text.trim (Inline.plainText entry)).filter (· ≠ "")
    | _ => []

def Readable (blocks : List Block) : Prop := ∀ b ∈ blocks, ∃ item, Item.ofBlock b = .ok item

end Block

namespace Chapter

def items (s : Chapter) : List Item := Block.items s.blocks

def function (s : Chapter) : Function :=
  ⟨s.name, Block.parameters s.blocks, Item.reading s.items⟩

end Chapter

def Document.chapters (d : Document) : List Chapter := (Block.cut d.blocks).2

/-! ## Declarations -/

namespace Program

theorem names_declare (p : Program) (f : Function) :
    (p.declare f).names = p.names.filter (· != f.name) ++ [f.name] := by
  simp only [names, declare, List.map_append, List.map_cons, List.map_nil, List.filter_map]
  rfl

theorem mem_names_declare {p : Program} {f : Function} {name : String} :
    name ∈ (p.declare f).names ↔ name ∈ p.names ∨ name = f.name := by
  rw [names_declare]
  by_cases hname : name = f.name <;> simp [hname]

theorem find?_declare (p : Program) (f : Function) (name : String) :
    (p.declare f).find? name = if f.name = name then some f else p.find? name := by
  simp only [find?, declare, List.find?_append]
  by_cases hname : f.name = name
  · have hnone : (p.functions.filter (·.name != f.name)).find? (·.name == name) = none := by
      simp [List.find?_eq_none, hname]
    rw [hnone]
    simp [hname]
  · have hsame : (p.functions.filter (·.name != f.name)).find? (·.name == name)
        = p.functions.find? (·.name == name) := by
      rw [List.find?_filter]
      congr 1
      funext g
      by_cases hg : g.name = name <;> simp [hg, Ne.symm hname]
    rw [hsame]
    simp [hname]

theorem find?_foldl_declare (fs : List Function) (p : Program) (name : String) :
    (fs.foldl declare p).find? name = (fs.reverse.find? (·.name == name)).or (p.find? name) := by
  induction fs generalizing p with
  | nil => simp
  | cons f fs ih =>
    rw [List.foldl_cons, ih, find?_declare, List.reverse_cons, List.find?_append]
    by_cases hname : f.name = name
    · simp [hname]
    · simp [hname]

theorem mem_names_foldl_declare (fs : List Function) (p : Program) (name : String) :
    name ∈ (fs.foldl declare p).names ↔ name ∈ p.names ∨ name ∈ fs.map (·.name) := by
  induction fs generalizing p with
  | nil => simp
  | cons f fs ih =>
    rw [List.foldl_cons, ih, mem_names_declare, List.map_cons, List.mem_cons, or_assoc]

end Program

/-! ## Chapters -/

theorem Item.Says.plain {b : Block} {item : Item} (h : Says b item) : item.Plain := by
  cases h <;> trivial

namespace Block

theorem items_cons {b : Block} {item : Item} (h : Item.ofBlock b = .ok item) (rest : List Block) :
    items (b :: rest) = item :: items rest := by
  simp [items, h, Except.toOption]

theorem items_of_mapM {blocks : List Block} {read : List Item}
    (h : blocks.mapM Item.ofBlock = .ok read) : read = items blocks := by
  induction blocks generalizing read with
  | nil => exact (Except.ok.inj h).symm
  | cons b rest ih =>
    obtain ⟨item, tail, hitem, htail, rfl⟩ := ok_of_mapM_cons h
    rw [items_cons hitem, ih htail]

theorem Readable.tail {b : Block} {rest : List Block} (h : Readable (b :: rest)) : Readable rest :=
  fun b' hb' => h b' (List.mem_cons_of_mem b hb')

theorem forall₂_says_iff {blocks : List Block} (h : Readable blocks) {said : List Item} :
    List.Forall₂ Item.Says blocks said ↔ said = items blocks := by
  rw [← Item.mapM_ofBlock_eq_ok_iff]
  constructor
  · exact items_of_mapM
  · rintro rfl
    cases hread : blocks.mapM Item.ofBlock with
    | ok read => rw [items_of_mapM hread]
    | error err =>
      obtain ⟨b, hb, failure, hfails⟩ := exists_firstError_iff.mp ⟨err, mapM_eq_error_iff.mp hread⟩
      obtain ⟨item, hitem⟩ := h b hb
      rw [hfails] at hitem
      cases hitem

theorem plain_items {blocks : List Block} (h : Readable blocks) :
    ∀ item ∈ items blocks, item.Plain := by
  intro item hitem
  obtain ⟨b, hb, hread⟩ := List.mem_filterMap.mp hitem
  obtain ⟨said, hsaid⟩ := h b hb
  obtain rfl : said = item := by simpa [hsaid, Except.toOption] using hread
  exact (Item.ofBlock_eq_ok_iff.mp hsaid).plain

theorem parameters_of_says {b : Block} {item : Item} (h : Item.Says b item) :
    Item.parameters [item] = parameters [b] := by
  cases h with
  | params entries =>
    have hempty : ∀ name : String, (!name.isEmpty) = decide (name ≠ "") := by
      intro name
      cases h : name.isEmpty <;> simp_all
    simp [Item.parameters, parameters, Item.paramNames, hempty]
  | _ => rfl

theorem parameters_items {blocks : List Block} (h : Readable blocks) :
    Item.parameters (items blocks) = parameters blocks := by
  induction blocks with
  | nil => rfl
  | cons b rest ih =>
    obtain ⟨item, hitem⟩ := h b (by simp)
    have hfirst := parameters_of_says (Item.ofBlock_eq_ok_iff.mp hitem)
    have hrest := ih h.tail
    simp only [Item.parameters, parameters, List.flatMap_cons, List.flatMap_nil,
      List.append_nil] at hfirst hrest
    simp only [items_cons hitem, Item.parameters, parameters, List.flatMap_cons, hfirst, hrest]

theorem cut_cons_of_ne {b : Block} (h : ∀ content, b ≠ .heading 1 content) (rest : List Block) :
    cut (b :: rest) = (b :: (cut rest).1, (cut rest).2) := by
  rw [cut]
  intro content hb
  exact h content hb

theorem cut_cons {b : Block} {item : Item} (h : Item.Says b item) (rest : List Block) :
    (∃ name, item = .function name ∧
      cut (b :: rest) = ([], ⟨name, (cut rest).1⟩ :: (cut rest).2)) ∨
    (∀ name, item ≠ .function name) ∧ cut (b :: rest) = (b :: (cut rest).1, (cut rest).2) := by
  cases h with
  | function content => exact .inl ⟨_, rfl, rfl⟩
  | subtitle content hone htwo =>
    refine .inr ⟨by simp, cut_cons_of_ne (fun other heq => hone ?_) rest⟩
    exact (Block.heading.inj heq).1
  | _ => exact .inr ⟨by simp, cut_cons_of_ne (by simp) rest⟩

theorem readable_cut {blocks : List Block} (h : Readable blocks) :
    Readable (cut blocks).1 ∧ ∀ c ∈ (cut blocks).2, Readable c.blocks := by
  induction blocks with
  | nil => simp [cut, Readable]
  | cons b rest ih =>
    obtain ⟨hpreamble, hchapters⟩ := ih h.tail
    obtain ⟨item, hitem⟩ := h b (by simp)
    rcases cut_cons (Item.ofBlock_eq_ok_iff.mp hitem) rest with ⟨name, -, hcut⟩ | ⟨-, hcut⟩
    · rw [hcut]
      exact ⟨by simp [Readable], by simpa using ⟨hpreamble, hchapters⟩⟩
    · rw [hcut]
      refine ⟨?_, hchapters⟩
      intro b' hb'
      rcases List.mem_cons.mp hb' with rfl | hb'
      · exact ⟨item, hitem⟩
      · exact hpreamble b' hb'

theorem not_function_of_mem_preamble {blocks : List Block} (h : Readable blocks) :
    ∀ item ∈ items (cut blocks).1, ∀ name, item ≠ .function name := by
  induction blocks with
  | nil => simp [cut, items]
  | cons b rest ih =>
    obtain ⟨item, hitem⟩ := h b (by simp)
    rcases cut_cons (Item.ofBlock_eq_ok_iff.mp hitem) rest with ⟨name, -, hcut⟩ | ⟨hne, hcut⟩
    · simp [hcut, items]
    · rw [hcut, items_cons hitem]
      intro said hsaid
      rcases List.mem_cons.mp hsaid with rfl | hsaid
      · exact hne
      · exact ih h.tail said hsaid

end Block

/-! ## Reading a document -/

namespace Outline

theorem add_of_ne_function (o : Outline) {item : Item} (h : ∀ name, item ≠ .function name) :
    o.add item = o.update (·.add item) := by
  obtain ⟨program, current⟩ := o
  cases item with
  | function name => exact absurd rfl (h name)
  | nothing => cases current <;> rfl
  | params names | guard test | statement s | leave => rfl

theorem foldl_add_of_ne_function {items : List Item}
    (h : ∀ item ∈ items, ∀ name, item ≠ .function name) (o : Outline) :
    items.foldl add o = o.update fun d => items.foldl Draft.add d := by
  obtain ⟨program, current⟩ := o
  induction items generalizing current with
  | nil => cases current <;> rfl
  | cons item rest ih =>
    rw [List.foldl_cons, add_of_ne_function _ (h item (by simp)), update,
      ih fun said hsaid => h said (by simp [hsaid])]
    cases current <;> rfl

end Outline

theorem Chapter.declare_function (p : Program) (c : Chapter) (h : Block.Readable c.blocks)
    (hnone : ∀ item ∈ c.items, ∀ name, item ≠ .function name) :
    (c.items.foldl Outline.add ⟨p, some (.start c.name)⟩).finish = p.declare c.function := by
  rw [Outline.foldl_add_of_ne_function hnone]
  simp only [Outline.update, Option.map_some, Outline.finish, Draft.finish_foldl_add, function]
  rw [items, Block.parameters_items h]

theorem Block.finish_foldl_items {blocks : List Block} (h : Readable blocks) (o : Outline) :
    ((items blocks).foldl Outline.add o).finish
      = ((cut blocks).2.map Chapter.function).foldl Program.declare
          ((items (cut blocks).1).foldl Outline.add o).finish := by
  induction blocks generalizing o with
  | nil => rfl
  | cons b rest ih =>
    obtain ⟨item, hitem⟩ := h b (by simp)
    rw [items_cons hitem, List.foldl_cons, ih h.tail]
    rcases cut_cons (Item.ofBlock_eq_ok_iff.mp hitem) rest with ⟨name, rfl, hcut⟩ | ⟨-, hcut⟩
    · -- the blocks up to the next chapter go into a fresh draft, which is then declared
      rw [hcut]
      have hchapter := Chapter.declare_function o.finish ⟨name, (cut rest).1⟩
        (readable_cut h.tail).1 (not_function_of_mem_preamble h.tail)
      exact congrArg (((cut rest).2.map Chapter.function).foldl Program.declare) hchapter
    · rw [hcut, items_cons hitem, List.foldl_cons]

namespace Program

theorem ofItems_items {blocks : List Block} (h : Block.Readable blocks) (baseDir : String) :
    ofItems baseDir (Block.items blocks)
      = ((Block.cut blocks).2.map Chapter.function).foldl declare (.empty baseDir) := by
  rw [ofItems, Block.finish_foldl_items h,
    Outline.foldl_add_of_ne_function (Block.not_function_of_mem_preamble h)]
  rfl

/-- A program that was read has just the functions of the document's chapters, of each name the last
one. Its parameters are those of the chapter's lists. What a chapter says is what its blocks say,
one by one. Its body is the reading of that, with all of it in that order, and putting the body
together by position never loses the place. -/
theorem ofDocument_chapters {document : Document} {baseDir : String} {p : Program}
    (h : ofDocument document baseDir = .ok p) :
    (∀ b ∈ document.blocks, ∃ item, Item.ofBlock b = .ok item ∧
      ∀ said, Item.Says b said ↔ said = item) ∧
    (p.names.Nodup ∧ ∀ name, name ∈ p.names ↔ name ∈ document.chapters.map (·.name)) ∧
    (∀ name, p.find? name
      = (document.chapters.reverse.find? (·.name == name)).map Chapter.function) ∧
    ∀ c ∈ document.chapters,
      (∀ said, List.Forall₂ Item.Says c.blocks said ↔ said = c.items) ∧
      Statement.walkAll c.function.body = c.items.filter Item.isStep ∧
      Trail.read c.items = some c.function.body := by
  obtain ⟨items, hitems, hp⟩ := ok_of_bind h
  have hreadable : Block.Readable document.blocks := ok_of_mem_mapM hitems
  obtain rfl : p = (document.chapters.map Chapter.function).foldl declare (.empty baseDir) := by
    rw [← Except.ok.inj hp, Block.items_of_mapM hitems, ofItems_items hreadable]
    rfl
  refine ⟨fun b hb => ?_, ⟨Program.nodup _, fun name => ?_⟩, fun name => ?_, fun c hc => ?_⟩
  · obtain ⟨item, hitem⟩ := hreadable b hb
    refine ⟨item, hitem, fun said => ?_⟩
    rw [← Item.ofBlock_eq_ok_iff, hitem, Except.ok.injEq, eq_comm]
  · rw [mem_names_foldl_declare]
    simp [names, empty, Chapter.function]
  · rw [find?_foldl_declare]
    simp [find?, empty, ← List.map_reverse, List.find?_map, Function.comp_def, Chapter.function]
  · have hchapter := (Block.readable_cut hreadable).2 c hc
    exact ⟨fun said => Block.forall₂_says_iff hchapter,
      (Item.walkAll_inside_beyond (Block.plain_items hchapter)).2, Trail.read_eq_reading c.items⟩

theorem ofDocument_chapters_nested :
    let blocks : List Block := [.list false [[.text " a "], [.text " "]],
      .ofParagraph [.text "Hands x on."], .heading 2 [.ofEmphasis [.text "a"]],
      .ofParagraph [.text " ", .ofStrong [.text "\x7ba\x7d"]], .quote [.ofParagraph [.text "x"]],
      .heading 2 [.text "no test"], .heading 2 [.ofEmphasis [.text "x"]],
      .ofParagraph [.ofLink "lib.md#g" [.text "a, x"]], .thematicBreak,
      .ofParagraph [.text "y += x"], .ofParagraph [.ofStrong [.text "done"]]]
    let items : List Item := [.params ["a"], .nothing, .guard (.var "a"),
      .statement (.print (.var "a")), .statement (.ask "x"), .nothing, .guard (.var "x"),
      .statement (.call "g" (some "lib.md") [.var "a", .var "x"]), .leave,
      .statement (.assign "y" (some .add) (.var "x")), .statement (.print (.str "done"))]
    let document : Document := ⟨.heading 1 [.text "f"] :: .quote [.ofParagraph [.text "lost"]] ::
      .heading 1 [.text " f"] :: blocks⟩
    List.Forall₂ Item.Says blocks items ∧
    ∃ p, ofDocument document "" = .ok p ∧ p.find? "f" = some ⟨"f", ["a"],
      [.guard (.var "a") [.print (.var "a"), .ask "x",
        .guard (.var "x") [.call "g" (some "lib.md") [.var "a", .var "x"], .leave]],
      .assign "y" (some .add) (.var "x"), .print (.str "done")]⟩ := by
  intro blocks items document
  have hunmarked : ∀ v, Inline.Unmarked [.text v] := by
    refine fun v => ⟨fun inner raw h => ?_, fun url inner raw h => ?_⟩
    all_goals
      obtain ⟨before, after, hcontent, -⟩ := h
      cases before <;> simp at hcontent
  have hcode : Item.Says (.ofParagraph [.text " ", .ofStrong [.text "\x7ba\x7d"]])
      (.statement (.print (.var "a"))) :=
    .printCode ⟨[.text " "], [], rfl, rfl, by decide⟩ (by decide) rfl
  have hcall : Item.Says (.ofParagraph [.ofLink "lib.md#g" [.text "a, x"]])
      (.statement (.call "g" (some "lib.md") [.var "a", .var "x"])) :=
    .call ⟨[], [], rfl, rfl, by decide⟩ (Item.target_eq_iff.mp rfl) (Item.arguments_eq_ok_iff.mp rfl)
  have hassign : Item.Says (.ofParagraph [.text "y += x"])
      (.statement (.assign "y" (some .add) (.var "x"))) :=
    .assign (a := ⟨"y", some .add, "x"⟩) (hunmarked _) (by decide +kernel) rfl
  have hsaid : List.Forall₂ Item.Says blocks items := by
    refine .cons (.params _) <| .cons (.prose (hunmarked _) rfl) <| .cons (.guard (by decide) rfl) <|
      .cons hcode <| .cons (.ask ⟨[], _, _, [], rfl, by simp, rfl, rfl⟩) <| .cons (.title rfl) <|
      .cons (.guard (by decide) rfl) <| .cons hcall <| .cons .leave <| .cons hassign <|
      .cons (.printText ⟨[], [], rfl, rfl, by decide⟩ (by decide) rfl) .nil
  obtain ⟨p, h⟩ : ∃ p, ofDocument document "" = .ok p := by
    have hread : document.blocks.mapM Item.ofBlock =
        .ok (.function "f" :: .statement (.ask "lost") :: .function "f" :: items) := by
      rw [Item.mapM_ofBlock_eq_ok_iff]
      exact .cons (.function _) (.cons (.ask ⟨[], _, _, [], rfl, by simp, rfl, rfl⟩)
        (.cons (.function _) hsaid))
    rw [ofDocument, hread]
    exact ⟨_, rfl⟩
  obtain ⟨-, -, hfind, hchapters⟩ := ofDocument_chapters h
  have hlast : document.chapters.reverse.find? (·.name == "f") = some ⟨"f", blocks⟩ := rfl
  have hitems := ((hchapters ⟨"f", blocks⟩ (.tail _ (.head _))).1 items).mp hsaid
  refine ⟨hsaid, p, h, ?_⟩
  rw [hfind, hlast, Option.map_some, Chapter.function, ← hitems]
  rfl

end Program

end Runbook

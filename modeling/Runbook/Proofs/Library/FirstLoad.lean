import Mathlib
import Runbook.File.Tree
import Runbook.Proofs.Except
import Runbook.Proofs.Library.Loading

/-!
# The first load wins

Programs are asked for and files change, in any order; the library answers for a canonical path
with the program that its file held when the path was first loaded.
-/

namespace Runbook

/-! ## Directories of programs -/

theorem Outline.baseDir_foldl_add (items : List Item) (o : Outline) :
    (items.foldl Outline.add o).program.baseDir = o.program.baseDir := by
  induction items generalizing o with
  | nil => rfl
  | cons item rest ih =>
    rw [List.foldl_cons, ih]
    obtain ⟨program, current⟩ := o
    cases item <;> cases current <;> rfl

theorem Program.baseDir_of_parse {source dir : String} {p : Program}
    (h : Program.parse source dir = .ok p) : p.baseDir = dir := by
  unfold parse ofDocument at h
  obtain ⟨items, -, hp⟩ := ok_of_bind h
  obtain rfl := Except.ok.inj hp
  have hbase := Outline.baseDir_foldl_add items ⟨.empty dir, none⟩
  unfold ofItems Outline.finish
  split
  · exact hbase
  · exact hbase

/-! ## Keys of a library -/

namespace Library

theorem exists_find?_iff {l : Library} {key : String} :
    (∃ p, l.find? key = some p) ↔ key ∈ l.entries.map Prod.fst := by
  rw [← Option.isSome_iff_exists]
  unfold find?
  rw [List.lookup_isSome_iff, List.mem_map]
  constructor
  · rintro ⟨entry, hentry, hkey⟩
    exact ⟨entry, hentry, (eq_of_beq hkey).symm⟩
  · rintro ⟨entry, hentry, hkey⟩
    exact ⟨entry, hentry, by simp [hkey]⟩

def Distinct (l : Library) : Prop := (l.entries.map Prod.fst).Nodup

theorem Distinct.loadPath {l : Library} {files : FileSystem} {path : String} {loaded : Loaded}
    (hl : l.Distinct) (h : l.loadPath files path = .ok loaded) : loaded.library.Distinct := by
  obtain ⟨-, ⟨-, hsame⟩ | ⟨hnew, hadded, -⟩⟩ := loadPath_cases h
  · rwa [hsame]
  · have hfresh : loaded.path ∉ l.entries.map Prod.fst := by
      rw [← exists_find?_iff, hnew]
      simp
    unfold Distinct
    rw [hadded, List.map_append, List.nodup_append]
    refine ⟨hl, by simp, ?_⟩
    intro key hkey other hother
    obtain rfl : other = loaded.path := by simpa using hother
    rintro rfl
    exact hfresh hkey

end Library

/-! ## Histories -/

inductive Action where
  | request (r : Library.Request)
  /-- Something was written or removed: from now on the files are these. -/
  | change (files : FileSystem)

structure Shelf where
  files : FileSystem
  library : Library

namespace Shelf

def serve (s : Shelf) (r : Library.Request) : Except Error Loaded := s.library.serve s.files r

def after (s : Shelf) : Action → Shelf
  | .request r => { s with library := s.library.after s.files r }
  | .change files => { s with files := files }

def afterAll (s : Shelf) (history : List Action) : Shelf := history.foldl after s

def key? (s : Shelf) : Action → Option String
  | .request r => (s.serve r).toOption.map Loaded.path
  | .change _ => none

def keys (s : Shelf) : List Action → List String
  | [] => []
  | a :: rest => (s.key? a).toList ++ (s.after a).keys rest

theorem afterAll_append (s : Shelf) (history later : List Action) :
    s.afterAll (history ++ later) = (s.afterAll history).afterAll later := by
  unfold afterAll
  rw [List.foldl_append]

theorem keys_append (s : Shelf) (history later : List Action) :
    s.keys (history ++ later) = s.keys history ++ (s.afterAll history).keys later := by
  induction history generalizing s with
  | nil => rfl
  | cons a rest ih =>
    simp only [List.cons_append, keys, ih, List.append_assoc]
    rfl

theorem afterAll_cons (s : Shelf) (a : Action) (rest : List Action) :
    s.afterAll (a :: rest) = (s.after a).afterAll rest := rfl

theorem after_request (s : Shelf) (r : Library.Request) :
    s.after (.request r) = ⟨s.files, s.library.after s.files r⟩ := rfl

theorem after_request_of_error {s : Shelf} {r : Library.Request} {e : Error}
    (h : s.serve r = .error e) : s.after (.request r) = s := by
  rw [after_request, Library.after_of_error h]

theorem afterAll_invariant {Inv : Library → Prop}
    (hload : ∀ l files path loaded, Inv l → Library.loadPath l files path = .ok loaded →
      Inv loaded.library) {s : Shelf} (h : Inv s.library) (history : List Action) :
    Inv (s.afterAll history).library := by
  induction history generalizing s with
  | nil => exact h
  | cons a rest ih =>
    rw [afterAll_cons]
    apply ih
    cases a with
    | change files => exact h
    | request r =>
      apply Library.after_invariant h
      intro path loaded hloaded
      exact hload s.library s.files path loaded h hloaded

theorem afterAll_grows (s : Shelf) (history : List Action) :
    s.library.Grows (s.afterAll history).library := by
  refine afterAll_invariant ?_ (Library.Grows.refl s.library) history
  intro l files path loaded hl hloaded
  exact hl.trans (Library.loadPath_grows hloaded)

/-! ## The first load -/

theorem serve_ok {s : Shelf} {r : Library.Request} {loaded : Loaded} (h : s.serve r = .ok loaded) :
    s.files.canonical r.path = .ok loaded.path ∧
      (s.after (.request r)).library.find? loaded.path = some loaded.program := by
  have hload : s.library.loadPath s.files r.path = .ok loaded := by
    rw [← Library.serve_eq_loadPath]
    exact h
  refine ⟨(Library.loadPath_cases hload).1, ?_⟩
  rw [after_request, Library.after_of_ok h]
  exact Library.find?_of_loadPath hload

theorem serve_of_find? {s : Shelf} {r : Library.Request} {key : String} {p : Program}
    (hkey : s.files.canonical r.path = .ok key) (hfind : s.library.find? key = some p) :
    s.serve r = .ok ⟨key, p, s.library⟩ := by
  unfold serve
  rw [Library.serve_eq_loadPath]
  exact Library.loadPath_of_find? hkey hfind

/-- The file of a path can be read as the program. -/
structure Offers (s : Shelf) (path key : String) (p : Program) : Prop where
  canonical : s.files.canonical path = .ok key
  parsed : ∃ source, s.files.read key = .ok source ∧
    Program.parse source (Path.parent key) = .ok p

theorem Offers.serve {s : Shelf} {r : Library.Request} {key : String} {p : Program}
    (h : s.Offers r.path key p) :
    ∃ loaded, s.serve r = .ok loaded ∧ loaded.path = key ∧
      loaded.program = (s.library.find? key).getD p := by
  cases hfind : s.library.find? key with
  | some q => exact ⟨_, serve_of_find? h.canonical hfind, rfl, rfl⟩
  | none =>
    obtain ⟨source, hread, hparse⟩ := h.parsed
    have hload := Library.loadPath_of_read h.canonical hfind hread hparse
    rw [← Library.serve_eq_loadPath] at hload
    exact ⟨_, hload, rfl, rfl⟩

theorem offers_of_after {s : Shelf} {a : Action} {key : String} {p : Program}
    (hnew : s.library.find? key = none) (h : (s.after a).library.find? key = some p) :
    ∃ r, a = .request r ∧ s.Offers r.path key p := by
  cases a with
  | change files =>
    have hold : s.library.find? key = some p := h
    simp [hnew] at hold
  | request r =>
    refine ⟨r, rfl, ?_⟩
    rw [after_request] at h
    cases hserve : s.library.serve s.files r with
    | error e => simp [Library.after_of_error hserve, hnew] at h
    | ok loaded =>
      rw [Library.after_of_ok hserve] at h
      rw [Library.serve_eq_loadPath] at hserve
      obtain ⟨hkey, ⟨-, hsame⟩ | ⟨-, hadded, hsource⟩⟩ := Library.loadPath_cases hserve
      · simp [hsame, hnew] at h
      · rw [hadded, Library.find?_concat, hnew, Option.none_or] at h
        split at h
        · rename_i hpath
          obtain rfl := Option.some.inj h
          subst hpath
          exact ⟨hkey, hsource⟩
        · simp at h

theorem find?_of_mem_keys {s : Shelf} {history : List Action} {key : String}
    (h : key ∈ s.keys history) : ∃ p, (s.afterAll history).library.find? key = some p := by
  induction history generalizing s with
  | nil => simp [keys] at h
  | cons a rest ih =>
    unfold keys at h
    rcases List.mem_append.mp h with hfirst | hrest
    · cases a with
      | change files => simp [key?] at hfirst
      | request r =>
        cases hserve : s.serve r with
        | error e => simp [key?, hserve, Except.toOption] at hfirst
        | ok loaded =>
          obtain rfl : key = loaded.path := by simpa [key?, hserve, Except.toOption] using hfirst
          have hstored := (serve_ok hserve).2
          exact ⟨loaded.program, afterAll_grows _ rest _ _ hstored⟩
    · exact ih hrest

theorem first_of_find? {s : Shelf} {history : List Action} {key : String} {p : Program}
    (hnew : s.library.find? key = none) (h : (s.afterAll history).library.find? key = some p) :
    ∃ before r later, history = before ++ .request r :: later ∧ key ∉ s.keys before ∧
      (s.afterAll before).Offers r.path key p := by
  induction history generalizing s with
  | nil => simp [afterAll, hnew] at h
  | cons a rest ih =>
    rw [afterAll_cons] at h
    cases hfind : (s.after a).library.find? key with
    | some q =>
      -- this action is the first load
      have hlater := afterAll_grows (s.after a) rest _ _ hfind
      obtain rfl : p = q := by simpa [h] using hlater
      obtain ⟨r, rfl, hoffers⟩ := offers_of_after hnew hfind
      exact ⟨[], r, rest, rfl, by simp [keys], hoffers⟩
    | none =>
      obtain ⟨before, r, later, rfl, hkeys, hoffers⟩ := ih hfind h
      refine ⟨a :: before, r, later, rfl, ?_, hoffers⟩
      have hnot : key ∉ s.keys [a] := by
        intro hmem
        obtain ⟨q, hq⟩ := find?_of_mem_keys hmem
        simp [afterAll, hfind] at hq
      simp only [keys, List.append_nil] at hnot
      unfold keys
      simp [hnot, hkeys]

theorem mem_keys_of_offers {s : Shelf} {r : Library.Request} {key : String} {p : Program}
    (h : s.Offers r.path key p) (later : List Action) : key ∈ s.keys (.request r :: later) := by
  obtain ⟨loaded, hserve, rfl, -⟩ := h.serve
  simp [keys, key?, hserve, Except.toOption]

/-! ## Histories from the start -/

def fresh (files : FileSystem) : Shelf := ⟨files, .empty⟩

theorem mem_keys_iff {files : FileSystem} {history : List Action} {key : String} :
    key ∈ (fresh files).keys history ↔
      ∃ p, ((fresh files).afterAll history).library.find? key = some p := by
  constructor
  · exact find?_of_mem_keys
  · rintro ⟨p, hp⟩
    obtain ⟨before, r, later, rfl, -, hoffers⟩ := first_of_find? rfl hp
    rw [keys_append, List.mem_append]
    exact .inr (mem_keys_of_offers hoffers later)

theorem find?_eq_none_of_not_mem {files : FileSystem} {history : List Action} {key : String}
    (h : key ∉ (fresh files).keys history) :
    ((fresh files).afterAll history).library.find? key = none := by
  rw [mem_keys_iff] at h
  exact Option.eq_none_iff_forall_ne_some.mpr fun p hp => h ⟨p, hp⟩

theorem find?_iff_first {files : FileSystem} {history : List Action} {key : String} {p : Program} :
    ((fresh files).afterAll history).library.find? key = some p ↔
      ∃ before r later, history = before ++ .request r :: later ∧
        key ∉ (fresh files).keys before ∧ ((fresh files).afterAll before).Offers r.path key p := by
  constructor
  · exact first_of_find? rfl
  · rintro ⟨before, r, later, rfl, hfirst, hoffers⟩
    obtain ⟨loaded, hserve, rfl, hprogram⟩ := hoffers.serve
    rw [find?_eq_none_of_not_mem hfirst, Option.getD_none] at hprogram
    have hstored := (serve_ok hserve).2
    rw [afterAll_append, afterAll_cons, ← hprogram]
    exact afterAll_grows _ later _ _ hstored

theorem size_eq_card (files : FileSystem) (history : List Action) :
    ((fresh files).afterAll history).library.size = ((fresh files).keys history).toFinset.card := by
  have hdistinct : ((fresh files).afterAll history).library.Distinct := by
    refine afterAll_invariant ?_ (by simp [Library.Distinct, fresh, Library.empty]) history
    intro l files path loaded hl hloaded
    exact hl.loadPath hloaded
  have hsame : ((fresh files).keys history).toFinset =
      (((fresh files).afterAll history).library.entries.map Prod.fst).toFinset := by
    ext key
    rw [List.mem_toFinset, List.mem_toFinset, mem_keys_iff, Library.exists_find?_iff]
  rw [hsame, List.toFinset_card_of_nodup hdistinct, List.length_map]
  rfl

end Shelf

/-- The first load wins, for ever. Whatever is asked of a library that began empty, and however the
files change in between: a program that it holds stays; a load that succeeds returns the program
held for its canonical path, and a later load of a path that is canonically the same returns it
again; that program is what the file held at the first successful load of the path, with the
directory of the path as its own; a load that fails changes nothing, and one whose file can be read
as a program succeeds; and there are as many programs as canonical paths were loaded. -/
theorem Library.first_load_wins (files : FileSystem) :
    let now (history : List Action) : Shelf := (Shelf.fresh files).afterAll history
    (∀ history later key p, (now history).library.find? key = some p →
      (now (history ++ later)).library.find? key = some p) ∧
    (∀ history r loaded, (now history).serve r = .ok loaded →
      (now history).files.canonical r.path = .ok loaded.path ∧
      (now (history ++ [.request r])).library.find? loaded.path = some loaded.program) ∧
    (∀ history r loaded later r', (now history).serve r = .ok loaded →
      (now (history ++ .request r :: later)).files.canonical r'.path = .ok loaded.path →
      (now (history ++ .request r :: later)).serve r' =
        .ok ⟨loaded.path, loaded.program, (now (history ++ .request r :: later)).library⟩) ∧
    (∀ history key p, (now history).library.find? key = some p ↔
      ∃ before r later, history = before ++ .request r :: later ∧
        key ∉ (Shelf.fresh files).keys before ∧ (now before).Offers r.path key p) ∧
    (∀ history key p, (now history).library.find? key = some p → p.baseDir = Path.parent key) ∧
    (∀ history r e, (now history).serve r = .error e → now (history ++ [.request r]) = now history) ∧
    (∀ history r key p, (now history).Offers r.path key p →
      ∃ loaded, (now history).serve r = .ok loaded ∧ loaded.path = key ∧
        loaded.program = ((now history).library.find? key).getD p) ∧
    ∀ history, (now history).library.size = ((Shelf.fresh files).keys history).toFinset.card := by
  intro now
  have happend : ∀ history later, now (history ++ later) = (now history).afterAll later :=
    (Shelf.fresh files).afterAll_append
  have hkeeps : ∀ history later key p, (now history).library.find? key = some p →
      (now (history ++ later)).library.find? key = some p := by
    intro history later key p hp
    rw [happend]
    exact Shelf.afterAll_grows _ later key p hp
  refine ⟨hkeeps, ?_, ?_, ?_, ?_, ?_, ?_, ?_⟩
  · intro history r loaded hserve
    rw [happend]
    exact Shelf.serve_ok hserve
  · intro history r loaded later r' hserve hkey
    apply Shelf.serve_of_find? hkey
    rw [happend]
    exact Shelf.afterAll_grows _ later _ _ (Shelf.serve_ok hserve).2
  · intro history key p
    exact Shelf.find?_iff_first
  · intro history key p hp
    obtain ⟨before, r, later, -, -, hoffers⟩ := Shelf.find?_iff_first.mp hp
    obtain ⟨source, -, hparse⟩ := hoffers.parsed
    exact Program.baseDir_of_parse hparse
  · intro history r e herror
    rw [happend]
    exact Shelf.after_request_of_error herror
  · intro history r key p hoffers
    exact hoffers.serve
  · exact Shelf.size_eq_card files

theorem Library.first_load_wins_rewritten :
    let tree : FileTree := .directory [("a.md", .file "# one\n".toUTF8), ("sub", .directory [])]
    let edited := (tree.insert ["a.md"] (.file "# two\n".toUTF8)).insert ["b.md"]
      (.file "# f\n".toUTF8)
    let files := tree.system "/"
    let one : Program := ⟨"/", [⟨"one", [], []⟩], by decide⟩
    let first : Request := .load "/sub" "../a.md"
    let history : List Action := [.request first, .request (.loadPath "/b.md"),
      .change (edited.system "/")]
    let now := (Shelf.fresh files).afterAll history
    (∃ loaded, (Shelf.fresh files).serve first = .ok loaded ∧ loaded.path = "/a.md" ∧
      loaded.program = one ∧ one.baseDir = Path.parent "/a.md" ∧
      now.serve (.loadPath "/a.md") = .ok ⟨"/a.md", one, now.library⟩) ∧
    (∃ loaded, now.serve (.load "/" "b.md") = .ok loaded ∧
      loaded.program = ⟨"/", [⟨"f", [], []⟩], by decide⟩) ∧
    (Shelf.fresh files).keys history = ["/a.md"] ∧ now.library.size = 1 := by
  intro tree edited files one first history now
  obtain ⟨-, hstored, hagain, -, hbase, -, hmended, hsize⟩ := Library.first_load_wins files
  have hfirst : (Shelf.fresh files).serve first = .ok ⟨"/a.md", one, ⟨[("/a.md", one)]⟩⟩ := by cbv
  have hmissing : (Shelf.mk files ⟨[("/a.md", one)]⟩).serve (.loadPath "/b.md") =
      .error (.programNotFound "/b.md" .notFound) := by cbv
  have hkey : (edited.system "/").canonical "/a.md" = .ok "/a.md" := by cbv
  have hwritten : (edited.system "/").canonical (Path.join "/" "b.md") = .ok "/b.md" := by cbv
  have hread : (edited.system "/").read "/b.md" = .ok "# f\n" := by cbv
  have hparse : Program.parse "# f\n" (Path.parent "/b.md") =
      .ok ⟨"/", [⟨"f", [], []⟩], by decide⟩ := by cbv
  have hafter : (Shelf.fresh files).after (.request first) = ⟨files, ⟨[("/a.md", one)]⟩⟩ := by
    rw [Shelf.after_request, after_of_ok hfirst]
    rfl
  have hkeys : (Shelf.fresh files).keys history = ["/a.md"] := by
    simp [history, Shelf.keys, Shelf.key?, hfirst, hafter, hmissing, Except.toOption]
  have hone := (hstored [] first _ hfirst).2
  refine ⟨⟨_, hfirst, rfl, rfl, hbase [.request first] "/a.md" one hone, ?_⟩, ?_, hkeys, ?_⟩
  · exact hagain [] first _ [.request (.loadPath "/b.md"), .change (edited.system "/")]
      (.loadPath "/a.md") hfirst hkey
  · obtain ⟨loaded, hserve, -, hprogram⟩ :=
      hmended history (.load "/" "b.md") _ _ ⟨hwritten, "# f\n", hread, hparse⟩
    have hnew : "/b.md" ∉ (Shelf.fresh files).keys history := by simp [hkeys]
    have hnone : now.library.find? "/b.md" = none := Shelf.find?_eq_none_of_not_mem hnew
    exact ⟨loaded, hserve, by rw [hprogram, hnone]; rfl⟩
  · have hcount := hsize history
    rw [hkeys] at hcount
    exact hcount

end Runbook

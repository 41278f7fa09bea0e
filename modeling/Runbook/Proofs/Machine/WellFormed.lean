import Runbook.Proofs.Machine.Moves

/-!
# Well-formed calls

Every call in progress is well-formed, after any moves of a driver. Its cursor leads from guard to
guard into its body, its function is the one that its program declares, and it has no variables
but those that the function can store.
-/

namespace Runbook

theorem Program.find?_name {p : Program} {name : String} {f : Function}
    (h : p.find? name = some f) : p.find? f.name = some f := by
  have hname : f.name = name := by simpa using List.find?_some h
  rwa [hname]

/-- The variable is a parameter of the function, or a statement of the body stores a value in it. -/
def Function.Binds (f : Function) (name : String) : Prop :=
  name ∈ f.params ∨ ∃ s : Statement, s.OccursIn f.body ∧ s.target? = some name

structure Frame.WellFormed (p : Program) (l : Library) (f : Frame) : Prop where
  declared : f.program.find? f.function.name = some f.function
  known : f.program = p ∨ ∃ path, l.find? path = some f.program
  fits : Cursor.Fits f.function.body f.cursor
  binds : ∀ name v, (name, v) ∈ f.vars → f.function.Binds name

namespace Frame.WellFormed

variable {p : Program} {l : Library} {f g : Frame} {s : Statement}

theorem grow {l' : Library} (h : f.WellFormed p l) (hl : l.Grows l') : f.WellFormed p l' where
  declared := h.declared
  known := by
    rcases h.known with hp | ⟨path, hpath⟩
    · exact .inl hp
    · exact .inr ⟨path, hl path _ hpath⟩
  fits := h.fits
  binds := h.binds

theorem start {q : Program} {function : Function} (hfind : q.find? function.name = some function)
    (hknown : q = p ∨ ∃ path, l.find? path = some q) (args : List Value) :
    (Frame.start q function args).WellFormed p l where
  declared := hfind
  known := hknown
  fits := .start function.body
  binds := by
    intro name v hv
    rcases Bindings.mem_ofArgs hv with hparam | ⟨y, hy⟩
    · exact Or.inl hparam
    · cases hy

theorem set {name : String} (h : f.WellFormed p l) (hname : f.function.Binds name) (v : Value) :
    (f.set name v).WellFormed p l where
  declared := h.declared
  known := h.known
  fits := h.fits
  binds := by
    intro other x hx
    rcases Bindings.mem_set hx with rfl | ⟨y, hy⟩
    · exact hname
    · exact h.binds other y hy

theorem pass (h : f.WellFormed p l) (hpass : f.Passes s g) : g.WellFormed p l where
  declared := by rw [hpass.program, hpass.function]; exact h.declared
  known := by rw [hpass.program]; exact h.known
  fits := by rw [hpass.function]; exact h.fits.move hpass.next
  binds := by rw [hpass.function, hpass.vars]; exact h.binds

theorem enter {test : Expr} {body : List Statement} (h : f.WellFormed p l)
    (hpass : f.Passes (.guard test body) g) : g.enter.WellFormed p l where
  declared := (h.pass hpass).declared
  known := (h.pass hpass).known
  fits := by
    have hfits := h.fits.enter hpass.next
    rwa [← hpass.function] at hfits
  binds := (h.pass hpass).binds

theorem binds_of_passes {name : String} (hpass : f.Passes s g) (hs : s.target? = some name) :
    g.function.Binds name := by
  have hoccurs := Cursor.occursIn_of_next? hpass.next
  rw [← hpass.function] at hoccurs
  exact Or.inr ⟨s, hoccurs, hs⟩

theorem act {w : World} (h : f.WellFormed p w.library) (files : FileSystem) :
    w.library.Grows (f.act files w).2.library ∧
      (∀ g ∈ (f.act files w).1.frames, g.WellFormed p (f.act files w).2.library) ∧
      ∀ g name, (f.act files w).1 = .wait g name → g.function.Binds name := by
  rcases f.act_performed files w with ⟨-, hact⟩ | ⟨s, g, hpass, hact⟩
  · rw [hact]
    exact ⟨.refl _, by simp [Deed.frames], by simp⟩
  · have hg := h.pass hpass
    generalize f.act files w = done at hact
    cases hact with
    | printed v => exact ⟨.refl _, by simpa [Deed.frames] using hg, by simp⟩
    | stored hs v input =>
      have hset := hg.set (binds_of_passes hpass hs) v
      exact ⟨.refl _, by simpa [Deed.frames] using hset, by simp⟩
    | entered => exact ⟨.refl _, by simpa [Deed.frames] using h.enter hpass, by simp⟩
    | skipped => exact ⟨.refl _, by simpa [Deed.frames] using hg, by simp⟩
    | left => exact ⟨.refl _, by simp [Deed.frames], by simp⟩
    | @asked name =>
      refine ⟨.refl _, by simpa [Deed.frames] using hg, ?_⟩
      intro g' name' hwait
      obtain ⟨rfl, rfl⟩ : g = g' ∧ name = name' := by simpa using hwait
      exact binds_of_passes hpass rfl
    | failed e => exact ⟨.refl _, by simpa [Deed.frames] using hg, by simp⟩
    | unresolved hresolve =>
      have hgrows := Library.resolve_grows hresolve
      exact ⟨hgrows, by simpa [Deed.frames] using hg.grow hgrows, by simp⟩
    | @called name file args q function values library hresolve =>
      have hgrows := Library.resolve_grows hresolve
      obtain ⟨hfind, horigin⟩ := Library.resolve_ok hresolve
      have hknown : q = p ∨ ∃ path, library.find? path = some q := by
        rcases horigin with ⟨-, rfl, -⟩ | ⟨path, loaded, -, hload, rfl, rfl⟩
        · exact (hg.grow hgrows).known
        · exact .inr ⟨loaded.path, Library.find?_of_loadPath hload⟩
      refine ⟨hgrows, ?_, by simp⟩
      simp only [Deed.frames, List.mem_cons, List.not_mem_nil, or_false, forall_eq_or_imp, forall_eq]
      exact ⟨start (Program.find?_name hfind) hknown values, hg.grow hgrows⟩

end Frame.WellFormed

namespace Machine

structure WellFormed (p : Program) (m : Machine) : Prop where
  frames : ∀ f ∈ m.frames, f.WellFormed p m.library
  waiting : ∀ name, m.waiting = some name →
    ∃ f below, m.frames = f :: below ∧ f.function.Binds name

theorem wellFormed_settle {p : Program} {limits : Limits} {f : Frame} {below : List Frame}
    {w : World} (h : WellFormed p (running limits (f :: below) w)) (files : FileSystem) :
    WellFormed p (settle limits below (f.act files w)).2 := by
  obtain ⟨hgrows, hdeed, hwait⟩ := (h.frames f (List.mem_cons_self ..)).act files
  have hlibrary : (settle limits below (f.act files w)).2.library = (f.act files w).2.library :=
    congrArg World.library (settle_world limits below _)
  constructor
  · intro g hg
    rw [hlibrary]
    rcases mem_settle_frames hg with hown | hbelow
    · exact hdeed g hown
    · exact (h.frames g (List.mem_cons_of_mem f hbelow)).grow hgrows
  · intro name hname
    obtain ⟨g, hdone, hframes⟩ := settle_waiting hname
    exact ⟨g, below, hframes, hwait g name hdone⟩

theorem wellFormed_provide {p : Program} {limits : Limits} {f : Frame} {below : List Frame}
    {w : World} {name : String} (h : WellFormed p (paused limits (f :: below) w name)) (v : Value) :
    WellFormed p (running limits (f.set name v :: below) w) := by
  obtain ⟨g, rest, hframes, hbinds⟩ := h.waiting name rfl
  obtain ⟨rfl, rfl⟩ : f = g ∧ below = rest := by simpa [paused, running] using hframes
  constructor
  · intro g hg
    rcases List.mem_cons.mp hg with rfl | hbelow
    · exact (h.frames f (List.mem_cons_self ..)).set hbinds v
    · exact h.frames g (List.mem_cons_of_mem f hbelow)
  · simp [running]

theorem wellFormed_moves {p : Program} {o : RunOptions} {input : Input} {m : Machine}
    (h : p.machine o input = .ok m) (schedule : List Move) : WellFormed p (m.moves schedule).2 := by
  obtain ⟨f, hf, rfl⟩ := running_of_machine h
  have hstart : WellFormed p (running o.limits [.start p f o.args] ⟨#[], input, o.library⟩) := by
    constructor
    · intro g hg
      obtain rfl := List.mem_singleton.mp hg
      exact .start (Program.find?_name hf) (.inl rfl) o.args
    · simp [running]
  have hmet : ∀ files, Move.step files ∈ schedule → True := fun _ _ => trivial
  refine moves_invariant ?_ ?_ hstart hmet
  · intro files limits g below w _ hg
    exact wellFormed_settle hg files
  · intro limits g below w name v hg
    exact wellFormed_provide hg v

/-- Whatever a driver does with a machine, also in vain, of each call in progress it holds that: its
function is the one that its program declares by that name, and the program is the one being run or
one that the library holds; its cursor has an index, each within the block that it counts in, and
before each but the last stands a guard whose body is the next block; and each of its variables is a
parameter or is stored by a statement of the body. -/
theorem frame_wellFormed {p : Program} {o : RunOptions} {input : Input} {m : Machine}
    (h : p.machine o input = .ok m) (schedule : List Move) {f : Frame}
    (hf : f ∈ (m.moves schedule).2.frames) :
    f.program.find? f.function.name = some f.function ∧
    (f.program = p ∨ ∃ path, (m.moves schedule).2.library.find? path = some f.program) ∧
    f.cursor ≠ [] ∧
    (∀ depth index, f.cursor[depth]? = some index → index ≤ (f.block depth).length) ∧
    (∀ depth index, f.cursor[depth]? = some index → depth + 1 < f.cursor.length →
      ∃ test, 0 < index ∧
        (f.block depth)[index - 1]? = some (.guard test (f.block (depth + 1)))) ∧
    ∀ name v, (name, v) ∈ f.vars → name ∈ f.function.params ∨
      ∃ s : Statement, s.OccursIn f.function.body ∧ s.target? = some name := by
  have hwf := (wellFormed_moves h schedule).frames f hf
  refine ⟨hwf.declared, hwf.known, hwf.fits.ne_nil, ?_, ?_, hwf.binds⟩
  · intro depth index hindex
    exact hwf.fits.index_le hindex
  · intro depth index hindex hdeeper
    exact hwf.fits.guard_before hindex hdeeper

theorem frame_wellFormed_asking :
    let other : Program := ⟨"/lib", [⟨"get", ["p"], [.guard (.bool true)
      [.ask "x", .assign "y" none (.var "x")]]⟩], by decide⟩
    let p : Program := ⟨"/", [⟨"main", [], [.guard (.bool true)
      [.call "get" (some "b.md") [], .print (.var "x")]]⟩], by decide⟩
    let o : RunOptions := { library := ⟨[("/lib/b.md", other)]⟩ }
    let files : FileSystem := ⟨fun _ => .ok "/lib/b.md", fun _ => .error .notFound⟩
    let schedule : List Move := [.provide .null, .step files, .step files, .step files, .step files,
      .step files, .provide (.str "hi"), .provide .null, .step files]
    ∃ m f, p.machine o .interactive = .ok m ∧ f ∈ (m.moves schedule).2.frames ∧
      f.program = other ∧ f.cursor = [1, 2] ∧ f.vars.map Prod.fst = ["p", "x", "y"] ∧
      (∀ depth index, f.cursor[depth]? = some index → depth + 1 < f.cursor.length →
        ∃ test, 0 < index ∧
          (f.block depth)[index - 1]? = some (.guard test (f.block (depth + 1)))) ∧
      ∀ name v, (name, v) ∈ f.vars → name ∈ f.function.params ∨
        ∃ s : Statement, s.OccursIn f.function.body ∧ s.target? = some name := by
  intro other p o files schedule
  obtain ⟨m, hm⟩ : ∃ m, p.machine o .interactive = .ok m := ⟨_, rfl⟩
  obtain ⟨get, hget⟩ : ∃ get, other.find? "get" = some get := ⟨_, rfl⟩
  let f : Frame := ⟨other, get,
    ⟨[("p", .undefined), ("x", .str "hi"), ("y", .str "hi")], by decide⟩, [1, 2]⟩
  have hf : f ∈ (m.moves schedule).2.frames := by
    obtain rfl := Except.ok.inj hm
    obtain rfl := Option.some.inj hget
    exact List.mem_cons_self ..
  obtain ⟨-, -, -, -, hguards, hvars⟩ := frame_wellFormed hm schedule hf
  exact ⟨m, f, hm, hf, rfl, rfl, rfl, hguards, hvars⟩

end Machine

end Runbook

import Runbook.Program.References
import Runbook.Proofs.Machine.Moves

/-!
# Proper tail calls

Calls at the end of their caller take its place, so a call in progress below the innermost one
always has something left to do after the call that it made. A program whose calls all come last
therefore runs in one call, however long it runs and whatever the limit.
-/

namespace Runbook

/-! ## Calls that come last -/

def Statement.endsCall : Option Statement → Bool
  | none => true
  | some .leave => true
  | some _ => false

mutual

/-- Whether every call in the statement comes last, if `next` follows the statement. -/
def Statement.callsLast (next : Option Statement) : Statement → Bool
  | .call _ _ _ => Statement.endsCall next
  | .guard _ body => Statement.callsLastAll next body
  | _ => true

def Statement.callsLastAll (next : Option Statement) : List Statement → Bool
  | [] => true
  | s :: rest => s.callsLast (rest.head?.or next) && Statement.callsLastAll next rest

end

def Program.callsLast (p : Program) : Bool :=
  p.functions.all fun f => Statement.callsLastAll none f.body

/-- The programs that a run of `p` can come to: `p`, and those that their calls load in the files
that are met, where the run begins with the library. -/
inductive Program.Reaches (p : Program) (library : Library) (met : FileSystem → Prop) :
    Program → Prop where
  | self : p.Reaches library met p
  | file {q : Program} {path : String} {files : FileSystem} {loaded : Loaded}
    (hq : p.Reaches library met q) (hpath : path ∈ q.references) (hfiles : met files)
    (hload : library.loadPath files path = .ok loaded) : p.Reaches library met loaded.program

theorem Statement.callsLastAll_append (next : Option Statement) (a b : List Statement) :
    callsLastAll next (a ++ b) = (callsLastAll (b.head?.or next) a && callsLastAll next b) := by
  induction a with
  | nil => simp [callsLastAll]
  | cons s rest ih =>
    have hhead : (rest ++ b).head?.or next = rest.head?.or (b.head?.or next) := by
      cases rest <;> rfl
    simp only [List.cons_append, callsLastAll, ih, hhead, Bool.and_assoc]

theorem Statement.mem_filesOf {function path : String} {args : List Expr} {body : List Statement}
    (h : (Statement.call function (some path) args).OccursIn body) : path ∈ filesOf body := by
  have hmem : ∀ {s : Statement} {block : List Statement}, s ∈ block →
      ∀ x ∈ s.files, x ∈ filesOf block := by
    intro s block hs x hx
    induction block with
    | nil => simp at hs
    | cons first rest ih =>
      rw [filesOf, List.mem_append]
      rcases List.mem_cons.mp hs with rfl | hrest
      · exact .inl hx
      · exact .inr (ih hrest)
  induction h with
  | here h => exact hmem h path (by simp [files])
  | inside h _ ih => exact hmem h path (by simpa [files] using ih)

theorem Program.mem_references {q : Program} {f : Function} (hf : f ∈ q.functions)
    {function path : String} {args : List Expr}
    (h : (Statement.call function (some path) args).OccursIn f.body) :
    Path.join q.baseDir path ∈ q.references := by
  unfold references
  rw [List.mem_flatMap]
  exact ⟨f, hf, List.mem_map_of_mem (Statement.mem_filesOf h)⟩

/-! ## Libraries of a run -/

structure Library.LoadedFrom (p : Program) (l : Library) (met : FileSystem → Prop) (l' : Library) :
    Prop where
  grows : l.Grows l'
  origin : ∀ path q, l'.find? path = some q → l.find? path = some q ∨ p.Reaches l met q

namespace Library.LoadedFrom

variable {p q : Program} {l l' : Library} {met : FileSystem → Prop} {files : FileSystem}
  {path : String} {loaded : Loaded}

theorem refl (p : Program) (l : Library) (met : FileSystem → Prop) : l.LoadedFrom p met l :=
  ⟨.refl l, fun _ _ h => .inl h⟩

theorem reaches (h : l.LoadedFrom p met l') (hq : p.Reaches l met q) (hpath : path ∈ q.references)
    (hfiles : met files) (hload : l'.loadPath files path = .ok loaded) :
    p.Reaches l met loaded.program := by
  obtain ⟨hkey, ⟨hfind, -⟩ | ⟨hnone, -, source, hread, hparse⟩⟩ := loadPath_cases hload
  · rcases h.origin _ _ hfind with hold | hreached
    · have hearlier := Program.Reaches.file hq hpath hfiles (loadPath_of_find? hkey hold)
      exact hearlier
    · exact hreached
  · -- what is new to the grown library was new to the first one too
    have hfirst : l.find? loaded.path = none := by
      cases hold : l.find? loaded.path with
      | none => rfl
      | some q' => rw [h.grows _ _ hold] at hnone; simp at hnone
    have hearlier := Program.Reaches.file hq hpath hfiles (loadPath_of_read hkey hfirst hread hparse)
    exact hearlier

theorem load (h : l.LoadedFrom p met l') (hq : p.Reaches l met q) (hpath : path ∈ q.references)
    (hfiles : met files) (hload : l'.loadPath files path = .ok loaded) :
    l.LoadedFrom p met loaded.library := by
  refine ⟨h.grows.trans (loadPath_grows hload), ?_⟩
  intro other q' hother
  obtain ⟨-, ⟨-, hsame⟩ | ⟨-, hadded, -⟩⟩ := loadPath_cases hload
  · rw [hsame] at hother
    exact h.origin other q' hother
  · rw [hadded, find?_concat] at hother
    rcases Option.or_eq_some_iff.mp hother with hold | ⟨-, hnew⟩
    · exact h.origin other q' hold
    · split at hnew
      · obtain rfl := Option.some.inj hnew
        exact .inr (h.reaches hq hpath hfiles hload)
      · simp at hnew

end Library.LoadedFrom

/-! ## One call -/

structure Frame.CallsLast (p : Program) (l : Library) (met : FileSystem → Prop) (f : Frame) :
    Prop where
  reached : p.Reaches l met f.program
  declared : f.function ∈ f.program.functions
  last : Statement.callsLastAll none f.remaining = true

namespace Frame.CallsLast

variable {p : Program} {l : Library} {met : FileSystem → Prop} {f g : Frame} {s : Statement}

theorem start {q : Program} {name : String} {function : Function} (hq : p.Reaches l met q)
    (hlast : q.callsLast = true) (hfind : q.find? name = some function) (args : List Value) :
    (Frame.start q function args).CallsLast p l met := by
  have hmem : function ∈ q.functions := List.mem_of_find?_eq_some hfind
  refine ⟨hq, hmem, ?_⟩
  rw [Frame.remaining_start]
  exact List.all_eq_true.mp hlast function hmem

theorem set (h : f.CallsLast p l met) (name : String) (v : Value) :
    (f.set name v).CallsLast p l met := ⟨h.reached, h.declared, h.last⟩

theorem pass (h : f.CallsLast p l met) (hpass : f.Passes s g) : g.CallsLast p l met := by
  have hlast := h.last
  rw [hpass.remaining, Statement.callsLastAll, Bool.and_eq_true] at hlast
  refine ⟨?_, ?_, hlast.2⟩
  · rw [hpass.program]
    exact h.reached
  · rw [hpass.program, hpass.function]
    exact h.declared

theorem enter {test : Expr} {body : List Statement} (h : f.CallsLast p l met)
    (hpass : f.Passes (.guard test body) g) : g.enter.CallsLast p l met := by
  have hg := h.pass hpass
  have hlast := h.last
  rw [hpass.remaining, Statement.callsLastAll, Bool.and_eq_true, Statement.callsLast] at hlast
  refine ⟨hg.reached, hg.declared, ?_⟩
  rw [hpass.enter test body rfl, Statement.callsLastAll_append, Bool.and_eq_true]
  exact hlast

theorem atTail {function : String} {file : Option String} {args : List Expr}
    (h : f.CallsLast p l met) (hpass : f.Passes (.call function file args) g) : g.atTail = true := by
  have hlast := h.last
  rw [hpass.remaining, Statement.callsLastAll, Bool.and_eq_true, Statement.callsLast] at hlast
  rw [Frame.atTail, Cursor.atTail_iff]
  change g.remaining = [] ∨ ∃ rest, g.remaining = .leave :: rest
  cases hrest : g.remaining with
  | nil => exact .inl rfl
  | cons first rest =>
    rw [hrest] at hlast
    cases first with
    | leave => exact .inr ⟨rest, rfl⟩
    | print e | assign name op value | call function file args | guard test body | ask name =>
      simp [Statement.endsCall] at hlast

theorem mem_references {function path : String} {args : List Expr} (h : f.CallsLast p l met)
    (hpass : f.Passes (.call function (some path) args) g) :
    Path.join g.program.baseDir path ∈ g.program.references := by
  rw [hpass.program]
  exact Program.mem_references h.declared (Cursor.occursIn_of_next? hpass.next)

theorem act {w : World} {files : FileSystem} (h : f.CallsLast p l met)
    (hall : ∀ q, p.Reaches l met q → q.callsLast = true) (hl : l.LoadedFrom p met w.library)
    (hfiles : met files) :
    l.LoadedFrom p met (f.act files w).2.library ∧
      (∀ g ∈ (f.act files w).1.frames, g.CallsLast p l met) ∧
      (∀ g q function args, (f.act files w).1 = .call g q function args → g.atTail = true) ∧
      ∀ g e name limit, (f.act files w).1 = .fail g e → e ≠ .callDepthExceeded name limit := by
  rcases f.act_performed files w with ⟨-, hact⟩ | ⟨s, g, hpass, hact⟩
  · rw [hact]
    exact ⟨hl, by simp [Deed.frames], by simp, by simp⟩
  · have hg := h.pass hpass
    generalize f.act files w = done at hact
    cases hact with
    | printed v => exact ⟨hl, by simpa [Deed.frames] using hg, by simp, by simp⟩
    | stored hs v input =>
      exact ⟨hl, by simpa [Deed.frames] using hg.set _ v, by simp, by simp⟩
    | entered => exact ⟨hl, by simpa [Deed.frames] using h.enter hpass, by simp, by simp⟩
    | skipped => exact ⟨hl, by simpa [Deed.frames] using hg, by simp, by simp⟩
    | left => exact ⟨hl, by simp [Deed.frames], by simp, by simp⟩
    | asked => exact ⟨hl, by simpa [Deed.frames] using hg, by simp, by simp⟩
    | failed e =>
      refine ⟨hl, by simpa [Deed.frames] using hg, by simp, ?_⟩
      intro g' e' name limit hfail
      obtain ⟨-, rfl⟩ : g = g' ∧ Error.evaluation e = e' := by simpa using hfail
      simp
    | @unresolved name file args e library hresolve =>
      refine ⟨?_, by simpa [Deed.frames] using hg, by simp, ?_⟩
      · rcases Library.resolve_error hresolve with rfl | ⟨path, loaded, rfl, hload, rfl⟩
        · exact hl
        · exact hl.load hg.reached (h.mem_references hpass) hfiles hload
      · intro g' e' name' limit hfail
        obtain ⟨-, rfl⟩ : g = g' ∧ e = e' := by simpa using hfail
        have hlookup := Library.resolve_ofLookup hresolve
        cases hlookup <;> simp
    | @called name file args q function values library hresolve =>
      obtain ⟨hfind, horigin⟩ := Library.resolve_ok hresolve
      have hq : p.Reaches l met q ∧ l.LoadedFrom p met library := by
        rcases horigin with ⟨-, rfl, rfl⟩ | ⟨path, loaded, rfl, hload, rfl, rfl⟩
        · exact ⟨hg.reached, hl⟩
        · have href := h.mem_references hpass
          exact ⟨hl.reaches hg.reached href hfiles hload, hl.load hg.reached href hfiles hload⟩
      refine ⟨hq.2, ?_, ?_, by simp⟩
      · simp only [Deed.frames, List.mem_cons, List.not_mem_nil, or_false, forall_eq_or_imp,
          forall_eq]
        exact ⟨start hq.1 (hall q hq.1) hfind values, hg⟩
      · intro g' q' function' args' hcall
        obtain rfl : g = g' := (Deed.call.inj hcall).1
        exact h.atTail hpass

end Frame.CallsLast

/-- A call that has called another function and goes on with more than its own end. -/
structure Frame.Resumes (f : Frame) : Prop where
  called : ∃ function file args,
    Cursor.JustPassed f.function.body f.cursor (.call function file args)
  notAtTail : f.atTail = false

theorem Frame.justPassed_of_call {files : FileSystem} {f g : Frame} {w : World} {q : Program}
    {function : Function} {values : List Value}
    (h : (f.act files w).1 = .call g q function values) :
    ∃ name file args, Cursor.JustPassed g.function.body g.cursor (.call name file args) := by
  rcases f.act_performed files w with ⟨-, hact⟩ | ⟨s, moved, hpass, hact⟩
  · simp [hact] at h
  · have hpassed := Cursor.justPassed_of_next? hpass.next
    rw [← hpass.function] at hpassed
    generalize f.act files w = done at hact h
    cases hact with
    | @called name file args _ _ _ _ hresolve =>
      obtain rfl : moved = g := (Deed.call.inj h).1
      exact ⟨name, file, args, hpassed⟩
    | printed | stored | entered | skipped | left | asked | failed | unresolved => simp at h

theorem Frame.Resumes.next {f : Frame} (h : f.Resumes) :
    ∃ s moved, Cursor.next? f.function.body f.cursor = some (s, moved) ∧ s ≠ .leave := by
  have htail := h.notAtTail
  unfold Frame.atTail Cursor.atTail at htail
  cases hnext : Cursor.next? f.function.body f.cursor with
  | none => simp [hnext] at htail
  | some read =>
    obtain ⟨s, moved⟩ := read
    refine ⟨s, moved, rfl, ?_⟩
    rintro rfl
    simp [hnext] at htail

/-! ## Stacks -/

namespace Machine

structure Proper (m : Machine) : Prop where
  tailCalls : m.limits.tailCalls = true
  resumes : ∀ f ∈ m.frames.tail, f.Resumes

theorem proper_settle {limits : Limits} {f : Frame} {below : List Frame} {w : World}
    (h : Proper (running limits (f :: below) w)) (files : FileSystem) :
    Proper (settle limits below (f.act files w)).2 := by
  have hlimits : limits.tailCalls = true := h.tailCalls
  have hbelow : ∀ g ∈ below, g.Resumes := h.resumes
  refine ⟨by rw [settle_limits]; exact hlimits, ?_⟩
  cases hact : f.act files w with
  | mk deed w' =>
  cases deed with
  | proceed g | wait g name | fail g e => exact hbelow
  | finish =>
    intro g hg
    exact hbelow g (List.mem_of_mem_tail hg)
  | call g q function args =>
    simp only [settle, hlimits, Bool.and_true]
    split
    · exact hbelow
    · split
      · exact hbelow
      · rename_i htail _
        have hdeed : (f.act files w).1 = .call g q function args := by rw [hact]
        have hcalled := Frame.justPassed_of_call hdeed
        intro g' hg'
        rcases List.mem_cons.mp hg' with rfl | hg'
        · exact ⟨hcalled, by simpa using htail⟩
        · exact hbelow g' hg'

structure Single (p : Program) (l : Library) (met : FileSystem → Prop) (m : Machine) : Prop where
  tailCalls : m.limits.tailCalls = true
  loaded : l.LoadedFrom p met m.library
  length : m.frames.length ≤ 1
  frames : ∀ f ∈ m.frames, f.CallsLast p l met

section

variable {p : Program} {l : Library} {met : FileSystem → Prop} {files : FileSystem} {limits : Limits}
  {f : Frame} {below : List Frame} {w : World}

theorem Single.below_eq_nil (h : Single p l met (running limits (f :: below) w)) : below = [] := by
  have hlength := h.length
  simpa [running] using hlength

theorem single_settle (hall : ∀ q, p.Reaches l met q → q.callsLast = true)
    (h : Single p l met (running limits (f :: below) w)) (hfiles : met files) :
    Single p l met (settle limits below (f.act files w)).2 ∧
      ∀ name limit, (settle limits below (f.act files w)).1 ≠
        .error (.callDepthExceeded name limit) := by
  have hlimits : limits.tailCalls = true := h.tailCalls
  obtain rfl := h.below_eq_nil
  have hf : f.CallsLast p l met := h.frames f (List.mem_cons_self ..)
  obtain ⟨hloaded, hframes, htail, hfail⟩ := hf.act hall h.loaded hfiles
  have hworld := settle_world limits [] (f.act files w)
  have hrest : ∀ g ∈ (settle limits [] (f.act files w)).2.frames, g.CallsLast p l met := by
    intro g hg
    rcases mem_settle_frames hg with hown | hnone
    · exact hframes g hown
    · simp at hnone
  suffices hshort : (settle limits [] (f.act files w)).2.frames.length ≤ 1 ∧
      ∀ name limit, (settle limits [] (f.act files w)).1 ≠ .error (.callDepthExceeded name limit) by
    refine ⟨⟨by rw [settle_limits]; exact hlimits, ?_, hshort.1, hrest⟩, hshort.2⟩
    have hlibrary := congrArg World.library hworld
    change l.LoadedFrom p met (settle limits [] (f.act files w)).2.world.library
    rw [hlibrary]
    exact hloaded
  cases hact : f.act files w with
  | mk deed w' =>
  rw [hact] at htail hfail
  cases deed with
  | proceed g | wait g name | finish => simp [settle, running, paused]
  | fail g e =>
    refine ⟨by simp [settle, running], ?_⟩
    intro name limit herror
    exact hfail g e name limit rfl (by simpa [settle] using herror)
  | call g q function args =>
    have hg := htail g q function args rfl
    simp [settle, hg, hlimits, running]

theorem single_provide {name : String} (h : Single p l met (paused limits (f :: below) w name))
    (v : Value) : Single p l met (running limits (f.set name v :: below) w) := by
  refine ⟨h.tailCalls, h.loaded, h.length, ?_⟩
  intro g hg
  rcases List.mem_cons.mp hg with rfl | hbelow
  · exact (h.frames f (List.mem_cons_self ..)).set name v
  · exact h.frames g (List.mem_cons_of_mem f hbelow)

theorem Single.step_ne {m : Machine} (hall : ∀ q, p.Reaches l met q → q.callsLast = true)
    (h : Single p l met m) (hfiles : met files) (name : String) (limit : Nat) :
    (m.step files).1 ≠ .error (.callDepthExceeded name limit) := by
  rcases m.step_cases files with ⟨_, -, hstep⟩ | ⟨-, -, hstep⟩ | ⟨f, below, hm, hstep⟩
  · simp [hstep]
  · simp [hstep]
  · rw [hm] at h
    rw [hstep]
    exact (single_settle hall h hfiles).2 name limit

end

/-- Calls at the end of their caller take its place. So after any moves, each call below the
innermost one has just passed a call and is not at its end, because a statement other than `leave`
comes next in it. And if in all programs that a run can come to each call is followed by nothing or
by `leave`, then no more than one call is ever in progress, and no step fails at the depth limit,
whatever the limit is. -/
theorem tailCalls_proper {p : Program} {o : RunOptions} {input : Input} {m : Machine}
    (h : p.machine o input = .ok m) (htail : o.limits.tailCalls = true) :
    (∀ schedule, ∀ f ∈ (m.moves schedule).2.frames.tail,
      (∃ function file args,
        Cursor.JustPassed f.function.body f.cursor (.call function file args)) ∧
      f.atTail = false ∧
      ∃ s moved, Cursor.next? f.function.body f.cursor = some (s, moved) ∧ s ≠ .leave) ∧
    ∀ met : FileSystem → Prop, (∀ q, p.Reaches o.library met q → q.callsLast = true) →
      ∀ schedule, (∀ files, .step files ∈ schedule → met files) →
        (m.moves schedule).2.frames.length ≤ 1 ∧
        ∀ files, met files → ∀ function limit,
          ((m.moves schedule).2.step files).1 ≠ .error (.callDepthExceeded function limit) := by
  obtain ⟨entry, hentry, rfl⟩ := running_of_machine h
  constructor
  · intro schedule f hf
    have hstart : Proper (running o.limits [.start p entry o.args] ⟨#[], input, o.library⟩) :=
      ⟨htail, by simp [running]⟩
    have hmet : ∀ files, Move.step files ∈ schedule → True := fun _ _ => trivial
    have hproper := moves_invariant (fun files _ _ _ _ _ hm => proper_settle hm files)
      (fun _ _ _ _ _ _ hm => ⟨hm.tailCalls, hm.resumes⟩) hstart hmet
    have hresumes := hproper.resumes f hf
    exact ⟨hresumes.called, hresumes.notAtTail, hresumes.next⟩
  · intro met hall schedule hmet
    have hfirst : (Frame.start p entry o.args).CallsLast p o.library met :=
      .start .self (hall p .self) hentry o.args
    have hstart : Single p o.library met
        (running o.limits [.start p entry o.args] ⟨#[], input, o.library⟩) :=
      ⟨htail, .refl p o.library met, by simp [running], by simpa [running] using hfirst⟩
    have hsingle := moves_invariant (fun _ _ _ _ _ hfiles hm => (single_settle hall hm hfiles).1)
      (fun _ _ _ _ _ v hm => single_provide hm v) hstart hmet
    refine ⟨hsingle.length, ?_⟩
    intro files hfiles function limit
    exact hsingle.step_ne hall hfiles function limit

theorem tailCalls_proper_handing :
    let files : FileSystem := ⟨fun _ => .ok "/lib/b.md", fun _ => .error .notFound⟩
    let keeping : Program := ⟨"/", [⟨"main", [], [.guard (.bool true) [.call "done" none []],
      .print (.str "after")]⟩, ⟨"done", [], []⟩], by decide⟩
    let other : Program := ⟨"/lib", [⟨"again", [], [.guard (.bool true) [.call "again" none [],
      .leave], .print (.str "never")]⟩], by decide⟩
    let handing : Program := ⟨"/", [⟨"main", [], [.guard (.bool true)
      [.call "again" (some "b.md") []]]⟩], by decide⟩
    let o : RunOptions := { limits := ⟨0, true⟩, library := ⟨[("/lib/b.md", other)]⟩ }
    (∃ m f, keeping.machine {} .interactive = .ok m ∧
      f ∈ (m.moves [.step files, .step files]).2.frames.tail ∧
      f.cursor = [1, 1] ∧ f.atTail = false ∧
      ∃ s moved, Cursor.next? f.function.body f.cursor = some (s, moved) ∧ s ≠ .leave) ∧
    ∃ m, handing.machine o .interactive = .ok m ∧
      (∀ q, handing.Reaches o.library (· = files) q → q.callsLast = true) ∧
      (m.moves (List.replicate 9 (.step files))).2.frames.length = 1 ∧
      ∀ schedule, (∀ files', .step files' ∈ schedule → files' = files) →
        (m.moves schedule).2.frames.length ≤ 1 := by
  intro files keeping other handing o
  constructor
  · obtain ⟨m, hm⟩ : ∃ m, keeping.machine {} .interactive = .ok m := ⟨_, rfl⟩
    obtain ⟨main, hmain⟩ : ∃ main, keeping.find? "main" = some main := ⟨_, rfl⟩
    let f : Frame := ⟨keeping, main, .empty, [1, 1]⟩
    have hf : f ∈ (m.moves [.step files, .step files]).2.frames.tail := by
      obtain rfl := Except.ok.inj hm
      obtain rfl := Option.some.inj hmain
      exact List.mem_cons_self ..
    obtain ⟨-, htail, hnext⟩ := (tailCalls_proper hm rfl).1 _ f hf
    exact ⟨m, f, hm, hf, rfl, htail, hnext⟩
  · obtain ⟨m, hm⟩ : ∃ m, handing.machine o .interactive = .ok m := ⟨_, rfl⟩
    have hall : ∀ q, handing.Reaches o.library (· = files) q → q.callsLast = true := by
      intro q hq
      cases hq with
      | self => rfl
      | @file _ _ files' loaded _ _ hfiles hload =>
        obtain rfl : files' = files := hfiles
        obtain rfl : loaded = ⟨"/lib/b.md", other, o.library⟩ := (Except.ok.inj hload).symm
        rfl
    refine ⟨m, hm, hall, ?_, ?_⟩
    · obtain rfl := Except.ok.inj hm
      decide +kernel
    · intro schedule hschedule
      exact ((tailCalls_proper hm rfl).2 _ hall schedule hschedule).1

end Machine

end Runbook

import Runbook.Proofs.Machine.ProperTailCalls
import Runbook.Proofs.Machine.Suspension

/-!
# Runs that end

Where no function comes back to itself through its calls, a run ends: each step leaves the
innermost call fewer statements, or it begins a call of a lower rank, or a call returns.
-/

namespace Runbook

/-! ## Libraries filled from fixed files -/

namespace Library

structure FilledFrom (l : Library) (files : FileSystem) (l' : Library) : Prop where
  grows : l.Grows l'
  origin : ∀ key q, l'.find? key = some q → l.find? key = some q ∨
    ∃ source, files.read key = .ok source ∧ Program.parse source (Path.parent key) = .ok q

namespace FilledFrom

variable {l l' : Library} {files : FileSystem}

theorem refl (l : Library) (files : FileSystem) : l.FilledFrom files l :=
  ⟨.refl l, fun _ _ h => .inl h⟩

theorem load {path : String} {loaded : Loaded} (h : l.FilledFrom files l')
    (hload : l'.loadPath files path = .ok loaded) : l.FilledFrom files loaded.library := by
  refine ⟨h.grows.trans (loadPath_grows hload), ?_⟩
  intro key q hq
  obtain ⟨-, ⟨-, hsame⟩ | ⟨-, hadded, hsource⟩⟩ := loadPath_cases hload
  · rw [hsame] at hq
    exact h.origin key q hq
  · rw [hadded, find?_concat] at hq
    rcases Option.or_eq_some_iff.mp hq with hold | ⟨-, hnew⟩
    · exact h.origin key q hold
    · split at hnew
      · rename_i hkey
        obtain rfl := Option.some.inj hnew
        rw [hkey]
        exact .inr hsource
      · simp at hnew

theorem loadPath {path : String} {loaded : Loaded} (h : l.FilledFrom files l')
    (hload : l'.loadPath files path = .ok loaded) :
    ∃ first, l.loadPath files path = .ok first ∧ first.program = loaded.program := by
  obtain ⟨hkey, hfrom⟩ := loadPath_cases hload
  cases hfirst : l.find? loaded.path with
  | some q =>
    refine ⟨_, loadPath_of_find? hkey hfirst, ?_⟩
    have hkept := h.grows _ _ hfirst
    rcases hfrom with ⟨hfind, -⟩ | ⟨hnone, -⟩
    · exact Option.some.inj (hkept.symm.trans hfind)
    · rw [hkept] at hnone
      simp at hnone
  | none =>
    have hsource : ∃ source, files.read loaded.path = .ok source ∧
        Program.parse source (Path.parent loaded.path) = .ok loaded.program := by
      rcases hfrom with ⟨hfind, -⟩ | ⟨-, -, hread⟩
      · rcases h.origin _ _ hfind with hold | hread
        · rw [hfirst] at hold
          simp at hold
        · exact hread
      · exact hread
    obtain ⟨source, hread, hparse⟩ := hsource
    exact ⟨_, loadPath_of_read hkey hfirst hread hparse, rfl⟩

theorem resolve_eq {program q : Program} {function : String} {file : Option String} {g : Function}
    (h : l.FilledFrom files l') (hresolve : (l'.resolve files program function file).1 = .ok (q, g)) :
    (l.resolve files program function file).1 = .ok (q, g) := by
  have hfound : l'.resolve files program function file =
      (.ok (q, g), (l'.resolve files program function file).2) := by rw [← hresolve]
  obtain ⟨hfind, ⟨rfl, rfl, -⟩ | ⟨path, loaded, rfl, hload, rfl, -⟩⟩ := resolve_ok hfound
  · simp only [resolve, hfind]
  · obtain ⟨first, hfirst, hsame⟩ := h.loadPath hload
    simp only [Library.resolve, Library.load, hfirst, hsame, hfind]

theorem resolve {program : Program} {function : String} {file : Option String} {k : Library}
    {found : Except Error (Program × Function)} (h : l.FilledFrom files l')
    (hresolve : l'.resolve files program function file = (found, k)) : l.FilledFrom files k := by
  cases found with
  | error e =>
    rcases resolve_error hresolve with rfl | ⟨path, loaded, -, hload, rfl⟩
    · exact h
    · exact h.load hload
  | ok callee =>
    rcases (resolve_ok hresolve).2 with ⟨-, -, rfl⟩ | ⟨path, loaded, -, hload, -, rfl⟩
    · exact h
    · exact h.load hload

theorem act {w : World} (h : l.FilledFrom files w.library) (f : Frame) :
    l.FilledFrom files (f.act files w).2.library := by
  rcases f.act_performed files w with ⟨-, hact⟩ | ⟨s, g, -, hact⟩
  · rw [hact]
    exact h
  · generalize f.act files w = done at hact
    cases hact with
    | unresolved hresolve => exact h.resolve hresolve
    | called hresolve => exact h.resolve hresolve
    | printed | stored | entered | skipped | left | asked | failed => exact h

end FilledFrom

end Library

/-! ## Ranked functions -/

/-- A call that stands in a function that a run of `p` can come to finds no function, or it finds
one of lower rank. -/
def Program.Ranked (p : Program) (library : Library) (files : FileSystem)
    (rank : Program → Function → Nat) : Prop :=
  ∀ q, p.Reaches library (· = files) q → ∀ name f, q.find? name = some f →
    ∀ function file args, (Statement.call function file args).OccursIn f.body →
      ∀ q' g, (library.resolve files q function file).1 = .ok (q', g) → rank q' g < rank q f

def Deed.kept? : Deed → Option Frame
  | .proceed f => some f
  | .finish => none
  | .wait f _ => some f
  | .call f _ _ _ => some f
  | .fail f _ => some f

namespace Frame

structure Reached (p : Program) (l : Library) (files : FileSystem) (f : Frame) : Prop where
  program : p.Reaches l (· = files) f.program
  function : ∃ name, f.program.find? name = some f.function

variable {p : Program} {l : Library} {files : FileSystem} {f g : Frame} {w : World}

theorem Reached.of_eq (h : f.Reached p l files) (hprogram : g.program = f.program)
    (hfunction : g.function = f.function) : g.Reached p l files := by
  refine ⟨?_, ?_⟩
  · rw [hprogram]
    exact h.program
  · rw [hprogram, hfunction]
    exact h.function

theorem act_kept (h : (f.act files w).1.kept? = some g) :
    g.program = f.program ∧ g.function = f.function := by
  rcases f.act_performed files w with ⟨-, hact⟩ | ⟨s, moved, hpass, hact⟩
  · simp [hact, Deed.kept?] at h
  · have hsame : moved.program = f.program ∧ moved.function = f.function :=
      ⟨hpass.program, hpass.function⟩
    generalize f.act files w = done at hact h
    cases hact with
    | left => simp [Deed.kept?] at h
    | printed | stored | entered | skipped | asked | failed | unresolved | called =>
      obtain rfl := Option.some.inj h
      exact hsame

theorem Reached.call {rank : Program → Function → Nat} (hranked : p.Ranked l files rank)
    (hf : f.Reached p l files) (hl : l.FilledFrom files w.library) {q : Program} {callee : Function}
    {values : List Value} (h : (f.act files w).1 = .call g q callee values) :
    (start q callee values).Reached p l files ∧ rank q callee < rank f.program f.function := by
  obtain ⟨function, file, args, hnext, -, -, hresolve⟩ := act_call_iff.mp h
  have hoccurs := Cursor.occursIn_of_next? hnext
  have hfirst := hl.resolve_eq hresolve
  obtain ⟨name, hname⟩ := hf.function
  refine ⟨?_, hranked _ hf.program name _ hname function file args hoccurs q callee hfirst⟩
  have hfound : l.resolve files f.program function file =
      (.ok (q, callee), (l.resolve files f.program function file).2) := by rw [← hfirst]
  obtain ⟨hfind, horigin⟩ := Library.resolve_ok hfound
  refine ⟨?_, function, hfind⟩
  rcases horigin with ⟨-, rfl, -⟩ | ⟨path, loaded, rfl, hload, rfl, -⟩
  · exact hf.program
  · have href := Program.mem_references (List.mem_of_find?_eq_some hname) hoccurs
    have hloaded := Program.Reaches.file hf.program href rfl hload
    exact hloaded

end Frame

namespace World

structure Stocked (l : Library) (files : FileSystem) (w : World) : Prop where
  input : ∃ values, w.input = .buffered values
  library : l.FilledFrom files w.library

theorem Stocked.act {l : Library} {files : FileSystem} {w : World} (h : w.Stocked l files)
    (f : Frame) : (f.act files w).2.Stocked l files := by
  obtain ⟨values, hinput⟩ := h.input
  exact ⟨(f.act_buffered hinput files).2, h.library.act f⟩

end World

namespace Machine

def Halts (m : Machine) (files : FileSystem) : Prop :=
  ∃ steps out, m.runUntilSuspended files steps = some out

variable {files : FileSystem} {m next : Machine}

theorem halts_of_step (h : m.step files = (.ok .running, next)) (hnext : next.Halts files) :
    m.Halts files := by
  obtain ⟨steps, out, hrun⟩ := hnext
  refine ⟨steps + 1, out, ?_⟩
  rw [runUntilSuspended_of_step h, hrun]

theorem halts_of_stop (h : (m.step files).1 ≠ .ok .running) : m.Halts files :=
  ⟨1, m.step files, runUntilSuspended_of_stop rfl h⟩

theorem halts_cons {p : Program} {l : Library} {limits : Limits} {rank : Program → Function → Nat}
    (hranked : p.Ranked l files rank) {f : Frame} (hf : f.Reached p l files) {below : List Frame}
    (hbelow : ∀ w : World, w.Stocked l files → (running limits below w).Halts files) {w : World}
    (hw : w.Stocked l files) : (running limits (f :: below) w).Halts files := by
  -- By the rank of the function, and for one function by the statements that are left in the call.
  induction hrank : rank f.program f.function using Nat.strongRecOn generalizing f below w with
  | ind r ihRank =>
    induction hcount : Statement.countAll f.remaining using Nat.strongRecOn generalizing f w with
    | ind c ihCount =>
      obtain ⟨values, hinput⟩ := hw.input
      have hwait := (f.act_buffered hinput files).1
      have hafter := hw.act f
      have hstep := step_running files limits f below w
      obtain ⟨⟨deed, w'⟩, hact⟩ : ∃ done, f.act files w = done := ⟨_, rfl⟩
      have hdeed : (f.act files w).1 = deed := by rw [hact]
      rw [hact] at hstep hafter hwait
      cases deed with
      | finish => exact halts_of_step hstep (hbelow w' hafter)
      | wait g name => exact absurd rfl (hwait g name)
      | fail g e =>
        apply halts_of_stop
        rw [hstep]
        simp [settle]
      | proceed g =>
        have hkept : (f.act files w).1.kept? = some g := by rw [hdeed]; rfl
        obtain ⟨hprogram, hfunction⟩ := Frame.act_kept hkept
        have hfewer := Frame.count_lt_of_proceed hact
        have hsame : rank g.program g.function = r := by rw [hprogram, hfunction, hrank]
        exact halts_of_step hstep
          (ihCount _ (hcount ▸ hfewer) (hf.of_eq hprogram hfunction) hafter hsame rfl)
      | call g q callee args =>
        have hkept : (f.act files w).1.kept? = some g := by rw [hdeed]; rfl
        obtain ⟨hprogram, hfunction⟩ := Frame.act_kept hkept
        have hfewer := Frame.count_lt_of_call hact
        have hsame : rank g.program g.function = r := by rw [hprogram, hfunction, hrank]
        obtain ⟨hcallee, hlower⟩ := hf.call hranked hw.library hdeed
        rw [hrank] at hlower
        have hcaller : ∀ v : World, v.Stocked l files → (running limits (g :: below) v).Halts files :=
          fun v hv => ihCount _ (hcount ▸ hfewer) (hf.of_eq hprogram hfunction) hv hsame rfl
        simp only [settle] at hstep
        split at hstep
        · exact halts_of_step hstep (ihRank _ hlower hcallee hbelow hafter rfl)
        · split at hstep
          · apply halts_of_stop
            rw [hstep]
            simp
          · exact halts_of_step hstep (ihRank _ hlower hcallee hcaller hafter rfl)

theorem settle_ne_done (limits : Limits) (below : List Frame) (done : Deed × World) :
    (settle limits below done).1 ≠ .ok .done := by
  rcases settle_cases limits below done with ⟨frames, h⟩ | ⟨f, name, -, h⟩ | ⟨e, f, h⟩ <;> simp [h]

theorem isDone_of_step (h : m.step files = (.ok .done, next)) : next.isDone = true := by
  rcases m.step_cases files with ⟨name, -, hstep⟩ | ⟨-, hframes, hstep⟩ | ⟨f, below, -, hstep⟩
  · simp [hstep] at h
  · rw [hstep] at h
    obtain ⟨-, rfl⟩ := Prod.mk.inj h
    simp [isDone, hframes]
  · have hnot := settle_ne_done m.limits below (f.act files m.world)
    rw [← hstep, h] at hnot
    exact absurd rfl hnot

theorem runUntilDone_of_halts {limits : Limits} {frames : List Frame} {w : World}
    {values : List Value} (hinput : w.input = .buffered values)
    (h : (running limits frames w).Halts files) :
    ∃ steps result stopped, (running limits frames w).runUntilDone files steps =
        some (result, stopped) ∧
      (result = .ok () ∧ stopped.isDone = true ∨ ∃ e, result = .error e ∧ ¬ e.OfInput) := by
  obtain ⟨steps, ⟨result, stopped⟩, hrun⟩ := h
  have hwait := run_buffered hinput hrun
  obtain ⟨last, -, -, hlast, hrunning, -⟩ := history_of_run hrun
  refine ⟨steps, conclude result, stopped, ?_, ?_⟩
  · rw [runUntilDone_eq, hrun]
    rfl
  · cases result with
    | error e => exact .inr ⟨e, rfl, step_not_ofInput (by rw [hlast])⟩
    | ok progress =>
      cases progress with
      | running => exact absurd rfl hrunning
      | suspended name => exact absurd rfl (hwait name)
      | done => exact .inl ⟨rfl, isDone_of_step hlast⟩

/-! ## A body without calls -/

/-- The innermost call returns in the number of steps, or fails in the last of them. -/
inductive LeavesIn (files : FileSystem) (limits : Limits) (below : List Frame) :
    Nat → Frame → World → Prop where
  | returns {f : Frame} {w w' : World}
    (h : (running limits (f :: below) w).step files = (.ok .running, running limits below w')) :
    LeavesIn files limits below 1 f w
  | fails {f : Frame} {w : World} {e : Error} {stopped : Machine}
    (h : (running limits (f :: below) w).step files = (.error e, stopped)) :
    LeavesIn files limits below 1 f w
  | goes {n : Nat} {f g : Frame} {w w' : World} (hfunction : g.function = f.function)
    (h : (running limits (f :: below) w).step files =
      (.ok .running, running limits (g :: below) w'))
    (hrest : LeavesIn files limits below n g w') : LeavesIn files limits below (n + 1) f w

theorem leavesIn_of_callFree {f : Frame} {w : World} {values : List Value}
    (hinput : w.input = .buffered values)
    (hfree : ∀ name file args, ¬ (Statement.call name file args).OccursIn f.function.body)
    (files : FileSystem) (limits : Limits) (below : List Frame) :
    ∃ n, n ≤ Statement.countAll f.remaining + 1 ∧ LeavesIn files limits below n f w := by
  -- Each step but the last leaves fewer statements.
  induction hcount : Statement.countAll f.remaining using Nat.strongRecOn
    generalizing f w values with
  | ind c ih =>
    obtain ⟨hwait, values', hinput'⟩ := f.act_buffered hinput files
    have hstep := step_running files limits f below w
    obtain ⟨⟨deed, w'⟩, hact⟩ : ∃ done, f.act files w = done := ⟨_, rfl⟩
    have hdeed : (f.act files w).1 = deed := by rw [hact]
    rw [hact] at hstep hwait hinput'
    cases deed with
    | finish => exact ⟨1, by omega, .returns hstep⟩
    | wait g name => exact absurd rfl (hwait g name)
    | fail g e => exact ⟨1, by omega, .fails hstep⟩
    | call g q callee args =>
      obtain ⟨name, file, exprs, hnext, -⟩ := Frame.act_call_iff.mp hdeed
      exact absurd (Cursor.occursIn_of_next? hnext) (hfree name file exprs)
    | proceed g =>
      have hkept : (f.act files w).1.kept? = some g := by rw [hdeed]; rfl
      obtain ⟨-, hfunction⟩ := Frame.act_kept hkept
      have hfewer := Frame.count_lt_of_proceed hact
      rw [hcount] at hfewer
      rw [← hfunction] at hfree
      obtain ⟨n, hn, hleaves⟩ := ih _ hfewer hinput' hfree rfl
      exact ⟨n + 1, by omega, .goes hfunction hstep hleaves⟩

/-- Runs without recursion end. If functions can be ranked so that every call that finds a function
finds one of lower rank, then a run with its input there from the start is done after finitely many
steps, or has failed, whatever the entry, the arguments, the input and the limits. And a function
whose body has no calls returns, or fails, in at most one step more than its body has statements. -/
theorem ranked_run_ends (p : Program) (o : RunOptions) (files : FileSystem) :
    (∀ rank, p.Ranked o.library files rank → ∀ inputs m, p.machine o (.buffered inputs) = .ok m →
      ∃ steps result stopped, m.runUntilDone files steps = some (result, stopped) ∧
        (result = .ok () ∧ stopped.isDone = true ∨ ∃ e, result = .error e ∧ ¬ e.OfInput)) ∧
    ∀ (program : Program) (function : Function) (args values : List Value) (limits : Limits)
      (below : List Frame) (w : World), w.input = .buffered values →
      (∀ name file exprs, ¬ (Statement.call name file exprs).OccursIn function.body) →
      ∃ n, n ≤ Statement.countAll function.body + 1 ∧
        LeavesIn files limits below n (.start program function args) w := by
  constructor
  · intro rank hranked inputs m hm
    obtain ⟨f, hf, rfl⟩ := running_of_machine hm
    have hentry : (Frame.start p f o.args).Reached p o.library files := ⟨.self, o.entry, hf⟩
    have hempty : ∀ w : World, w.Stocked o.library files → (running o.limits [] w).Halts files := by
      intro w _
      apply halts_of_stop
      simp [step_running_nil]
    have hworld : World.Stocked o.library files ⟨#[], .buffered inputs, o.library⟩ :=
      ⟨⟨inputs, rfl⟩, .refl o.library files⟩
    exact runUntilDone_of_halts rfl (halts_cons hranked hentry hempty hworld)
  · intro program function args values limits below w hinput hfree
    have hleaves := leavesIn_of_callFree (f := .start program function args) hinput hfree files
      limits below
    rw [Frame.remaining_start] at hleaves
    exact hleaves

theorem ranked_run_ends_external :
    let files : FileSystem := ⟨fun _ => .ok "/lib/b.md", fun _ => .error .notFound⟩
    let last : Function := ⟨"last", [], [.guard (.bool true) [.print (.str "x")]]⟩
    let other : Program := ⟨"/lib", [last], by simp⟩
    let p : Program := ⟨"/", [⟨"main", [], [.call "f" none [], .guard (.bool true)
      [.call "f" none []], .call "gone" none []]⟩, ⟨"f", [], [.call "last" (some "b.md") []]⟩],
      by decide⟩
    let o : RunOptions := { limits := ⟨3, false⟩, library := ⟨[("/lib/b.md", other)]⟩ }
    let rank : Program → Function → Nat := fun _ f =>
      if f.name = "main" then 2 else if f.name = "f" then 1 else 0
    p.Ranked o.library files rank ∧
    (∃ m steps result stopped, p.machine o (.buffered []) = .ok m ∧
      m.runUntilDone files steps = some (result, stopped) ∧
      (result = .ok () ∧ stopped.isDone = true ∨ ∃ e, result = .error e ∧ ¬ e.OfInput)) ∧
    ∃ n, n ≤ 3 ∧ LeavesIn files o.limits [] n (.start other last []) ⟨#[], .buffered [], .empty⟩ := by
  intro files last other p o rank
  obtain ⟨hends, hleaves⟩ := ranked_run_ends p o files
  have hfree : ∀ name file exprs, ¬ (Statement.call name file exprs).OccursIn last.body := by
    intro name file exprs hcall
    simp [last, Cursor.occursIn_cons, Cursor.inside, Cursor.not_occursIn_nil] at hcall
  have hranked : p.Ranked o.library files rank := by
    intro q hq name f hf function file args hcall q' g hresolve
    cases hq with
    | self =>
      rcases List.mem_cons.mp (List.mem_of_find?_eq_some hf) with rfl | hrest
      · have hcall : function = "f" ∧ file = none ∧ args = [] ∨
            function = "gone" ∧ file = none ∧ args = [] := by
          simpa [Cursor.occursIn_cons, Cursor.inside, Cursor.not_occursIn_nil] using hcall
        rcases hcall with ⟨rfl, rfl, rfl⟩ | ⟨rfl, rfl, rfl⟩
        · obtain ⟨rfl, rfl⟩ := Prod.mk.inj (Except.ok.inj hresolve)
          decide
        · exact absurd hresolve (by simp [Library.resolve, p, Program.find?])
      · obtain rfl := List.mem_singleton.mp hrest
        have hcall : function = "last" ∧ file = some "b.md" ∧ args = [] := by
          simpa [Cursor.occursIn_cons, Cursor.inside, Cursor.not_occursIn_nil] using hcall
        obtain ⟨rfl, rfl, rfl⟩ := hcall
        obtain ⟨rfl, rfl⟩ := Prod.mk.inj (Except.ok.inj hresolve)
        decide
    | @file _ _ files' loaded _ _ hfiles hload =>
      obtain rfl : files' = files := hfiles
      obtain rfl : loaded = ⟨"/lib/b.md", other, o.library⟩ := (Except.ok.inj hload).symm
      obtain rfl := List.mem_singleton.mp (List.mem_of_find?_eq_some hf)
      exact absurd hcall (hfree function file args)
  refine ⟨hranked, ?_, ?_⟩
  · obtain ⟨m, hm⟩ : ∃ m, p.machine o (.buffered []) = .ok m := ⟨_, rfl⟩
    obtain ⟨steps, result, stopped, hrun, hresult⟩ := hends rank hranked [] m hm
    exact ⟨m, steps, result, stopped, hm, hrun, hresult⟩
  · exact hleaves other last [] [] o.limits [] ⟨#[], .buffered [], .empty⟩ rfl hfree

end Machine

end Runbook

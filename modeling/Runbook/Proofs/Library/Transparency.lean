import Mathlib
import Runbook.File.Tree
import Runbook.Proofs.Library.Loading
import Runbook.Proofs.Machine.History

/-!
# A library does not show

As long as the files stay as they are, what a library gives for a path is what the file of the
path gives, so that a run goes step by step as it would go with any other library filled from the
same files.
-/

namespace Runbook

def FileSystem.fetch (files : FileSystem) (path : String) : Except Error (String × Program) :=
  match files.canonical path with
  | .error cause => .error (.programNotFound path cause)
  | .ok key =>
    match files.read key with
    | .error cause => .error (.programNotFound key cause)
    | .ok source =>
      match Program.parse source (Path.parent key) with
      | .error e => .error (.malformed e)
      | .ok program => .ok (key, program)

namespace Library

/-- Every program in the library is what its file gives. -/
def Faithful (files : FileSystem) (l : Library) : Prop :=
  ∀ key p, l.find? key = some p →
    ∃ source, files.read key = .ok source ∧ Program.parse source (Path.parent key) = .ok p

section

variable {files : FileSystem} {l l' : Library}

theorem Faithful.empty (files : FileSystem) : Library.empty.Faithful files := by
  intro key p h
  simp [find?, Library.empty] at h

theorem Faithful.loadPath {path : String} {loaded : Loaded} (hl : l.Faithful files)
    (h : l.loadPath files path = .ok loaded) : loaded.library.Faithful files := by
  obtain ⟨-, ⟨-, hsame⟩ | ⟨-, hadded, hsource⟩⟩ := loadPath_cases h
  · rwa [hsame]
  · intro key p hp
    rw [hadded, find?_concat] at hp
    rcases Option.or_eq_some_iff.mp hp with hold | ⟨-, hnew⟩
    · exact hl key p hold
    · split at hnew
      · rename_i hkey
        obtain rfl := Option.some.inj hnew
        rwa [hkey]
      · simp at hnew

theorem Faithful.afterAll (hl : l.Faithful files) (requests : List Request) :
    (l.afterAll files requests).Faithful files := by
  induction requests generalizing l with
  | nil => exact hl
  | cons r rest ih => exact ih (after_invariant hl (fun _ _ hload => hl.loadPath hload) r)

theorem Faithful.fetch_eq (hl : l.Faithful files) (path : String) :
    (l.loadPath files path).map (fun loaded => (loaded.path, loaded.program)) = files.fetch path := by
  unfold Library.loadPath FileSystem.fetch
  cases hkey : files.canonical path with
  | error cause => simp only [Except.map]
  | ok key =>
    cases hfind : l.find? key with
    | some p =>
      obtain ⟨source, hread, hparse⟩ := hl key p hfind
      simp only [hread, hparse, hfind, Except.map]
    | none =>
      cases hread : files.read key with
      | error cause => simp only [hread, hfind, Except.map]
      | ok source =>
        cases hparse : Program.parse source (Path.parent key) <;>
          simp only [hread, hparse, hfind, Except.map]

theorem Faithful.resolve (hl : l.Faithful files) (hl' : l'.Faithful files) (program : Program)
    (function : String) (file : Option String) :
    ∃ result k k', l.resolve files program function file = (result, k) ∧
      l'.resolve files program function file = (result, k') ∧
      k.Faithful files ∧ k'.Faithful files := by
  unfold Library.resolve
  cases file with
  | none =>
    cases program.find? function with
    | none => exact ⟨_, l, l', rfl, rfl, hl, hl'⟩
    | some f => exact ⟨_, l, l', rfl, rfl, hl, hl'⟩
  | some path =>
    have hsame := (hl.fetch_eq (Path.join program.baseDir path)).trans
      (hl'.fetch_eq (Path.join program.baseDir path)).symm
    simp only [load]
    cases hload : l.loadPath files (Path.join program.baseDir path) with
    | error e =>
      cases hload' : l'.loadPath files (Path.join program.baseDir path) with
      | ok loaded => simp [hload, hload', Except.map] at hsame
      | error e' =>
        obtain rfl : e = e' := by simpa [hload, hload', Except.map] using hsame
        exact ⟨_, l, l', rfl, rfl, hl, hl'⟩
    | ok loaded =>
      cases hload' : l'.loadPath files (Path.join program.baseDir path) with
      | error e => simp [hload, hload', Except.map] at hsame
      | ok loaded' =>
        obtain ⟨-, hprogram⟩ : loaded.path = loaded'.path ∧ loaded.program = loaded'.program := by
          simpa [hload, hload', Except.map] using hsame
        have hk := hl.loadPath hload
        have hk' := hl'.loadPath hload'
        simp only [hprogram]
        cases loaded'.program.find? function with
        | none => exact ⟨_, _, _, rfl, rfl, hk, hk'⟩
        | some f => exact ⟨_, _, _, rfl, rfl, hk, hk'⟩

end

end Library

def World.withLibrary (w : World) (l : Library) : World := { w with library := l }

def Machine.withLibrary (m : Machine) (l : Library) : Machine := { m with library := l }

section

variable {files : FileSystem} {l l' : Library}

theorem Frame.perform_withLibrary (hl : l.Faithful files) (hl' : l'.Faithful files) (f : Frame)
    (w : World) (s : Statement) :
    ∃ deed v k k', f.perform files (w.withLibrary l) s = (deed, World.withLibrary v k) ∧
      f.perform files (w.withLibrary l') s = (deed, v.withLibrary k') ∧
      k.Faithful files ∧ k'.Faithful files := by
  cases s with
  | print e =>
    simp only [perform]
    cases f.eval e with
    | error err => exact ⟨_, w, l, l', rfl, rfl, hl, hl'⟩
    | ok v => exact ⟨_, { w with printed := w.printed.push v }, l, l', rfl, rfl, hl, hl'⟩
  | assign name op value =>
    simp only [perform]
    cases f.eval value with
    | error err => exact ⟨_, w, l, l', rfl, rfl, hl, hl'⟩
    | ok v => exact ⟨_, w, l, l', rfl, rfl, hl, hl'⟩
  | guard test body =>
    simp only [perform]
    cases f.eval test with
    | error err => exact ⟨_, w, l, l', rfl, rfl, hl, hl'⟩
    | ok v => exact ⟨_, w, l, l', rfl, rfl, hl, hl'⟩
  | leave => exact ⟨_, w, l, l', rfl, rfl, hl, hl'⟩
  | ask name =>
    obtain ⟨printed, input, library⟩ := w
    cases input with
    | buffered values =>
      exact ⟨_, ⟨printed, .buffered values.tail, library⟩, l, l', rfl, rfl, hl, hl'⟩
    | interactive => exact ⟨_, ⟨printed, .interactive, library⟩, l, l', rfl, rfl, hl, hl'⟩
  | call function file args =>
    simp only [perform]
    cases args.mapM f.eval with
    | error err => exact ⟨_, w, l, l', rfl, rfl, hl, hl'⟩
    | ok values =>
      obtain ⟨result, k, k', hk, hk', hfaithful⟩ := hl.resolve hl' f.program function file
      simp only [World.withLibrary, hk, hk']
      cases result with
      | error e => exact ⟨_, w, k, k', rfl, rfl, hfaithful⟩
      | ok found => exact ⟨_, w, k, k', rfl, rfl, hfaithful⟩

namespace Machine

theorem settle_withLibrary (limits : Limits) (below : List Frame) (deed : Deed) (w : World) :
    ∃ result m, ∀ k, settle limits below (deed, w.withLibrary k) = (result, withLibrary m k) := by
  cases deed with
  | proceed f => exact ⟨_, running limits (f :: below) w, fun _ => rfl⟩
  | finish => exact ⟨_, running limits below w, fun _ => rfl⟩
  | wait f name => exact ⟨_, paused limits (f :: below) w name, fun _ => rfl⟩
  | fail f e => exact ⟨_, running limits (f :: below) w, fun _ => rfl⟩
  | call f program function args =>
    simp only [settle]
    split
    · exact ⟨_, running limits (.start program function args :: below) w, fun _ => rfl⟩
    · split
      · exact ⟨_, running limits (f :: below) w, fun _ => rfl⟩
      · exact ⟨_, running limits (.start program function args :: f :: below) w, fun _ => rfl⟩

theorem step_withLibrary (hl : l.Faithful files) (hl' : l'.Faithful files) (m : Machine) :
    ∃ result next k k', (m.withLibrary l).step files = (result, withLibrary next k) ∧
      (m.withLibrary l').step files = (result, next.withLibrary k') ∧
      k.Faithful files ∧ k'.Faithful files := by
  rcases m.eq_running_or_paused with hm | ⟨name, hm⟩
  · cases hframes : m.frames with
    | nil =>
      rw [hm, hframes]
      exact ⟨_, running m.limits [] m.world, l, l', rfl, rfl, hl, hl'⟩
    | cons f below =>
      obtain ⟨deed, v, k, k', hact, hact', hfaithful⟩ :
          ∃ deed v k k', f.act files (m.world.withLibrary l) = (deed, World.withLibrary v k) ∧
            f.act files (m.world.withLibrary l') = (deed, v.withLibrary k') ∧
            k.Faithful files ∧ k'.Faithful files := by
        unfold Frame.act
        cases Cursor.next? f.function.body f.cursor with
        | none => exact ⟨_, m.world, l, l', rfl, rfl, hl, hl'⟩
        | some passed => exact Frame.perform_withLibrary hl hl' _ _ _
      obtain ⟨result, next, hsettle⟩ := settle_withLibrary m.limits below deed v
      have hstep := step_running files m.limits f below (m.world.withLibrary l)
      have hstep' := step_running files m.limits f below (m.world.withLibrary l')
      rw [hact, hsettle] at hstep
      rw [hact', hsettle] at hstep'
      rw [hm, hframes]
      exact ⟨result, next, k, k', hstep, hstep', hfaithful⟩
  · exact ⟨.ok (.suspended name), m, l, l', by rw [hm]; rfl, by rw [hm]; rfl, hl, hl'⟩

theorem provide_withLibrary (m : Machine) (l : Library) (v : Value) :
    (m.withLibrary l).provide v = (m.provide v).map fun resumed => resumed.withLibrary l := by
  obtain ⟨frames, waiting, printed, limits, input, library⟩ := m
  cases waiting with
  | none => rfl
  | some name =>
    cases frames with
    | nil => rfl
    | cons f below => rfl

def Session.forget (s : Session) : Session := { s with machine := s.machine.withLibrary .empty }

theorem runUntilSuspended_withLibrary (hl : l.Faithful files) (hl' : l'.Faithful files)
    (m : Machine) (fuel : Nat) :
    (m.withLibrary l).runUntilSuspended files fuel = none ∧
        (m.withLibrary l').runUntilSuspended files fuel = none ∨
      ∃ result stopped k k',
        (m.withLibrary l).runUntilSuspended files fuel = some (result, withLibrary stopped k) ∧
        (m.withLibrary l').runUntilSuspended files fuel = some (result, stopped.withLibrary k') ∧
        k.Faithful files ∧ k'.Faithful files := by
  induction fuel generalizing m l l' with
  | zero => exact .inl ⟨rfl, rfl⟩
  | succ fuel ih =>
    obtain ⟨result, next, k, k', hstep, hstep', hk, hk'⟩ := step_withLibrary hl hl' m
    by_cases hstop : result = .ok .running
    · subst hstop
      rw [runUntilSuspended_of_step hstep, runUntilSuspended_of_step hstep']
      exact ih hk hk' next
    · rw [runUntilSuspended_of_stop hstep hstop, runUntilSuspended_of_stop hstep' hstop]
      exact .inr ⟨result, next, k, k', rfl, rfl, hk, hk'⟩

theorem runAlone_withLibrary (hl : l.Faithful files) (hl' : l'.Faithful files) (m : Machine)
    (fuel : Nat) :
    ((m.withLibrary l).runAlone files fuel).map Session.forget =
      ((m.withLibrary l').runAlone files fuel).map Session.forget := by
  simp only [runAlone, runUntilDone_eq]
  rcases runUntilSuspended_withLibrary hl hl' m fuel with ⟨hrun, hrun'⟩ |
    ⟨result, stopped, k, k', hrun, hrun', -⟩
  · rw [hrun, hrun']
    rfl
  · rw [hrun, hrun']
    rfl

theorem runAnswering_withLibrary (hl : l.Faithful files) (hl' : l'.Faithful files) (m : Machine)
    (fuel : Nat) (answers : List Value) :
    ((m.withLibrary l).runAnswering files fuel answers).map Session.forget =
      ((m.withLibrary l').runAnswering files fuel answers).map Session.forget := by
  induction fuel generalizing m l l' answers with
  | zero => rfl
  | succ fuel ih =>
    simp only [runAnswering]
    rcases runUntilSuspended_withLibrary hl hl' m fuel with ⟨hrun, hrun'⟩ |
      ⟨result, stopped, k, k', hrun, hrun', hk, hk'⟩
    · rw [hrun, hrun']
    · rw [hrun, hrun']
      cases result with
      | error e => rfl
      | ok progress =>
        cases progress with
        | running | done => rfl
        | suspended name =>
          simp only [provide_withLibrary]
          cases stopped.provide (answers.headD .null) with
          | error e => rfl
          | ok resumed =>
            have hrest := congrArg (Option.map fun s : Session =>
              { s with events :=
                  stopped.printedSince m.printed.size ++ Event.asked name :: s.events })
              (ih hk hk' resumed answers.tail)
            simp only [Option.map_map] at hrest
            simp only [Except.map, Option.map_map]
            exact hrest

end Machine

def History.forget (h : History) : History :=
  { h with ended := h.ended.map fun (result, w) => (result, w.withLibrary .empty) }

theorem History.forget_after (h : History) (earlier : List Happening) :
    (h.after earlier).forget = h.forget.after earlier := rfl

theorem Machine.history_withLibrary (hl : l.Faithful files) (hl' : l'.Faithful files) (m : Machine)
    (n : Nat) (answers : List Value) :
    ((m.withLibrary l).history files n answers).forget =
      ((m.withLibrary l').history files n answers).forget := by
  induction n generalizing m l l' answers with
  | zero => rfl
  | succ n ih =>
    obtain ⟨result, next, k, k', hstep, hstep', hk, hk'⟩ := step_withLibrary hl hl' m
    simp only [history, hstep, hstep']
    cases result with
    | error e => rfl
    | ok progress =>
      cases progress with
      | done => rfl
      | running =>
        simp only [History.forget_after, ih hk hk' next]
        rfl
      | suspended name =>
        simp only [provide_withLibrary]
        cases next.provide (answers.headD .null) with
        | error e => rfl
        | ok resumed =>
          simp only [Except.map, History.forget_after, ih hk hk' resumed]
          rfl

end

theorem Program.machine_withLibrary {p : Program} {o : RunOptions} {f : Function}
    (hf : p.find? o.entry = some f) (l : Library) (input : Input) :
    p.machine { o with library := l } input =
      .ok (Machine.withLibrary (.running o.limits [.start p f o.args] ⟨#[], input, .empty⟩) l) := by
  simp only [machine, Machine.start, hf]
  rfl

/-- The library of a run does not show. Take two libraries filled from the same files by any
requests, some of which may have failed. Whatever the fuel, a run with the one leaves the same
result, machine and events as a run with the other, apart from the library itself. The two runs are
the same turn by turn, too: they begin the same statements, and if one fails in a turn the other
fails in it, for the same reason. -/
theorem Program.library_invisible (p : Program) (files : FileSystem) (o : RunOptions) (d : Discipline)
    (requests requests' : List Library.Request) :
    let one := { o with library := Library.empty.afterAll files requests }
    let other := { o with library := Library.empty.afterAll files requests' }
    (∀ fuel, (p.run files fuel one d).map (Option.map Machine.Session.forget) =
      (p.run files fuel other d).map (Option.map Machine.Session.forget)) ∧
    ∀ n, (p.history files n one d).forget = (p.history files n other d).forget := by
  intro one other
  have hone : one.library.Faithful files := (Library.Faithful.empty files).afterAll requests
  have hother : other.library.Faithful files := (Library.Faithful.empty files).afterAll requests'
  cases hf : p.find? o.entry with
  | none =>
    have hmachine : ∀ input, p.machine one input = p.machine other input := by
      intro input
      simp only [machine, Machine.start, one, other, hf]
      rfl
    constructor
    · intro fuel
      cases d <;> simp only [run, stream, hmachine]
    · intro n
      simp only [history, one, other, hf]
      rfl
  | some f =>
    constructor
    · intro fuel
      cases d with
      | buffered inputs =>
        simp only [run, one, other, machine_withLibrary hf]
        exact congrArg Except.ok (Machine.runAlone_withLibrary hone hother _ fuel)
      | answering answers =>
        simp only [run, stream, one, other, machine_withLibrary hf]
        exact congrArg Except.ok (Machine.runAnswering_withLibrary hone hother
          (.running o.limits [.start p f o.args] ⟨#[], .interactive, .empty⟩) fuel answers)
    · intro n
      simp only [history, one, other, hf]
      exact Machine.history_withLibrary hone hother (p.initial f o d) n d.answers

theorem Program.library_invisible_loaded :
    let tree : FileTree := .directory [("a.md", .file "# f\n".toUTF8)]
    let files := tree.system "/"
    let p : Program :=
      ⟨"/", [⟨"main", [], [.call "f" (some "a.md") [], .call "g" (some "a.md") [], .leave]⟩],
        by decide⟩
    let loaded := Library.empty.afterAll files [.loadPath "/b.md", .load "/" "a.md"]
    loaded.size = 1 ∧
    (∀ fuel, (p.run files fuel { library := loaded } (.answering [])).map
        (Option.map Machine.Session.forget) =
      (p.run files fuel {} (.answering [])).map (Option.map Machine.Session.forget)) ∧
    ∀ n, (p.history files n { library := loaded } (.answering [])).forget =
      (p.history files n {} (.answering [])).forget := by
  intro tree files p loaded
  have hsize : (Library.empty.afterAll files [.loadPath "/b.md", .load "/" "a.md"]).size = 1 := by cbv
  exact ⟨hsize, Program.library_invisible p files {} (.answering [])
    [.loadPath "/b.md", .load "/" "a.md"] []⟩

end Runbook

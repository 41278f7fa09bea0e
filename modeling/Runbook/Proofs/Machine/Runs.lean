import Runbook.Proofs.Machine.Activation

/-!
# Runs from their start to their end

More fuel keeps an answer, and a run begins with one step. A report holds all that a finished run
shows.
-/

namespace Runbook

namespace Machine

theorem runUntilSuspended_mono {files : FileSystem} {m : Machine} {n n' : Nat} {out : Outcome}
    (h : m.runUntilSuspended files n = some out) (hle : n ≤ n') :
    m.runUntilSuspended files n' = some out := by
  induction n generalizing m n' with
  | zero => simp [runUntilSuspended] at h
  | succ n ih =>
    obtain ⟨n', rfl⟩ : ∃ k, n' = k + 1 := ⟨n' - 1, by omega⟩
    rw [runUntilSuspended] at h ⊢
    split at h
    · exact ih h (by omega)
    · exact h

theorem runUntilSuspended_of_step {files : FileSystem} {m m' : Machine} {n : Nat}
    (h : m.step files = (.ok .running, m')) :
    m.runUntilSuspended files (n + 1) = m'.runUntilSuspended files n := by
  rw [runUntilSuspended, h]

theorem runUntilSuspended_of_stop {files : FileSystem} {m : Machine} {n : Nat} {out : Outcome}
    (h : m.step files = out) (hstop : out.1 ≠ .ok .running) :
    m.runUntilSuspended files (n + 1) = some out := by
  rw [runUntilSuspended, h]
  split
  · simp at hstop
  · rfl

theorem step_of_running {files : FileSystem} {limits : Limits} {frames : List Frame} {w : World}
    (h : ((running limits frames w).step files).1 = .ok .running) :
    ∃ frames' w', (running limits frames w).step files =
      (.ok .running, running limits frames' w') := by
  cases frames with
  | nil => simp [step_running_nil] at h
  | cons f below =>
    rw [step_running] at h ⊢
    rcases settle_cases limits below (f.act files w) with ⟨frames', hgo⟩ | ⟨g, name, -, hwait⟩ |
      ⟨e, g, hfail⟩
    · exact ⟨frames', _, hgo⟩
    · simp [hwait] at h
    · simp [hfail] at h

theorem step_of_suspended {files : FileSystem} {limits : Limits} {frames : List Frame} {w : World}
    {name : String} {stopped : Machine}
    (h : (running limits frames w).step files = (.ok (.suspended name), stopped)) :
    ∃ f below w', stopped = paused limits (f :: below) w' name := by
  cases frames with
  | nil => simp [step_running_nil] at h
  | cons f below =>
    rw [step_running] at h
    rcases settle_cases limits below (f.act files w) with ⟨frames', hgo⟩ | ⟨g, other, -, hwait⟩ |
      ⟨e, g, hfail⟩
    · simp [hgo] at h
    · rw [hwait] at h
      obtain ⟨hname, rfl⟩ := Prod.mk.inj h
      obtain rfl : other = name := by simpa using hname
      exact ⟨g, below, _, rfl⟩
    · simp [hfail] at h

theorem runAlone_mono {files : FileSystem} {m : Machine} {n n' : Nat} {s : Session}
    (h : m.runAlone files n = some s) (hle : n ≤ n') : m.runAlone files n' = some s := by
  obtain ⟨out, hout, rfl⟩ := Option.map_eq_some_iff.mp h
  obtain ⟨stopped, hrun, rfl⟩ := Option.map_eq_some_iff.mp hout
  rw [runAlone, runUntilDone, runUntilSuspended_mono hrun hle]
  rfl

theorem runAnswering_mono {files : FileSystem} {m : Machine} {n n' : Nat} {answers : List Value}
    {s : Session} (h : m.runAnswering files n answers = some s) (hle : n ≤ n') :
    m.runAnswering files n' answers = some s := by
  induction n generalizing m n' answers s with
  | zero => simp [runAnswering] at h
  | succ n ih =>
    obtain ⟨n', rfl⟩ : ∃ k, n' = k + 1 := ⟨n' - 1, by omega⟩
    have hle : n ≤ n' := by omega
    rw [runAnswering] at h ⊢
    cases hrun : m.runUntilSuspended files n with
    | none => simp [hrun] at h
    | some stopped =>
      obtain ⟨result, m'⟩ := stopped
      rw [hrun] at h
      rw [runUntilSuspended_mono hrun hle]
      match result with
      | .error e => exact h
      | .ok .running => exact h
      | .ok .done => exact h
      | .ok (.suspended name) =>
        cases hprovide : m'.provide (answers.headD .null) with
        | error e =>
          simp only [hprovide] at h ⊢
          exact h
        | ok resumed =>
          simp only [hprovide] at h ⊢
          obtain ⟨rest, hrest, rfl⟩ := Option.map_eq_some_iff.mp h
          rw [ih hrest hle]
          rfl

end Machine

/-- A run that has ended: how, in what world, and what happened before. -/
structure Report where
  result : Except Error Unit
  world : World
  events : List Machine.Event

def Report.DepthExceeded (r : Report) : Prop :=
  ∃ function limit, r.result = .error (.callDepthExceeded function limit)

def Machine.Session.report (s : Session) : Report := ⟨s.result, s.machine.world, s.events⟩

namespace Machine

def conclude : Except Error Progress → Except Error Unit
  | .error e => .error e
  | .ok (.suspended name) => .error (.inputRequired name)
  | .ok _ => .ok ()

def reportOf (before : Nat) (out : Outcome) : Report :=
  ⟨conclude out.1, out.2.world, out.2.printedSince before⟩

theorem printedSince_eq {m m' : Machine} (h : m.world = m'.world) (before : Nat) :
    m.printedSince before = m'.printedSince before := by
  have hprinted : m.printed = m'.printed := congrArg World.printed h
  rw [printedSince, printedSince, hprinted]

theorem runUntilDone_eq (files : FileSystem) (n : Nat) (m : Machine) :
    m.runUntilDone files n =
      (m.runUntilSuspended files n).map fun out => (conclude out.1, out.2) := by
  rw [runUntilDone]
  congr 1
  funext ⟨result, stopped⟩
  match result with
  | .error e => rfl
  | .ok .running => rfl
  | .ok .done => rfl
  | .ok (.suspended name) => rfl

theorem runAlone_report (files : FileSystem) (n : Nat) (m : Machine) :
    (m.runAlone files n).map Session.report =
      (m.runUntilSuspended files n).map (reportOf m.printed.size) := by
  rw [runAlone, runUntilDone_eq]
  cases m.runUntilSuspended files n <;> rfl

theorem runAnswering_of_ended {files : FileSystem} {n : Nat} {m : Machine} {out : Outcome}
    (h : m.runUntilSuspended files n = some out) (hwait : ∀ name, out.1 ≠ .ok (.suspended name))
    (answers : List Value) :
    (m.runAnswering files (n + 1) answers).map Session.report =
      some (reportOf m.printed.size out) := by
  obtain ⟨result, stopped⟩ := out
  rw [runAnswering, h]
  match result with
  | .error e => rfl
  | .ok .running => rfl
  | .ok .done => rfl
  | .ok (.suspended name) => exact absurd rfl (hwait name)

theorem runAnswering_of_paused {files : FileSystem} {n : Nat} {m : Machine} {limits : Limits}
    {f : Frame} {below : List Frame} {w : World} {name : String}
    (h : m.runUntilSuspended files n =
      some (.ok (.suspended name), paused limits (f :: below) w name)) (answers : List Value) :
    (m.runAnswering files (n + 1) answers).map Session.report =
      (((running limits (f.set name (answers.headD .null) :: below) w).runAnswering files n
        answers.tail).map Session.report).map fun r =>
          { r with events :=
            (running limits [] w).printedSince m.printed.size ++ .asked name :: r.events } := by
  rw [runAnswering, h]
  have hprovide : (paused limits (f :: below) w name).provide (answers.headD .null) =
      .ok (running limits (f.set name (answers.headD .null) :: below) w) := rfl
  simp only [hprovide]
  cases (running limits (f.set name (answers.headD .null) :: below) w).runAnswering files n
    answers.tail <;> rfl

end Machine

def Discipline.input : Discipline → Input
  | .buffered inputs => .buffered inputs
  | .answering _ => .interactive

namespace RunOptions

def world (o : RunOptions) (d : Discipline) : World := ⟨#[], d.input, o.library⟩

end RunOptions

namespace Program

def report (p : Program) (files : FileSystem) (fuel : Nat) (o : RunOptions) (d : Discipline) :
    Option Report :=
  match p.run files fuel o d with
  | .error e => some ⟨.error e, o.world d, []⟩
  | .ok session => session.map Machine.Session.report

/-- A run ends with the report, after however many steps. -/
def Ends (p : Program) (files : FileSystem) (o : RunOptions) (d : Discipline) (r : Report) : Prop :=
  ∃ fuel, p.report files fuel o d = some r

def initial (p : Program) (f : Function) (o : RunOptions) (d : Discipline) : Machine :=
  .running o.limits [.start p f o.args] (o.world d)

theorem report_of_missing {p : Program} {o : RunOptions} (h : p.find? o.entry = none)
    (files : FileSystem) (fuel : Nat) (d : Discipline) :
    p.report files fuel o d = some ⟨.error (.unknownEntry o.entry), o.world d, []⟩ := by
  cases d <;> simp [report, run, stream, machine, Machine.start, h, bind, Except.bind]

theorem run_of_find? {p : Program} {o : RunOptions} {f : Function} (h : p.find? o.entry = some f)
    (files : FileSystem) (fuel : Nat) (d : Discipline) :
    p.machine o d.input = .ok (p.initial f o d) ∧ p.run files fuel o d = .ok (match d with
      | .buffered _ => (p.initial f o d).runAlone files fuel
      | .answering answers => (p.initial f o d).runAnswering files fuel answers) := by
  cases d <;> simp only [run, stream, machine, Machine.start, h, bind, Except.bind] <;>
    exact ⟨rfl, rfl⟩

theorem report_buffered {p : Program} {o : RunOptions} {f : Function}
    (h : p.find? o.entry = some f) (files : FileSystem) (fuel : Nat) (inputs : List Value) :
    p.report files fuel o (.buffered inputs) =
      ((p.initial f o (.buffered inputs)).runAlone files fuel).map Machine.Session.report := by
  simp only [report, run, machine, Machine.start, h, bind, Except.bind]
  rfl

theorem report_answering {p : Program} {o : RunOptions} {f : Function}
    (h : p.find? o.entry = some f) (files : FileSystem) (fuel : Nat) (answers : List Value) :
    p.report files fuel o (.answering answers) =
      ((p.initial f o (.answering answers)).runAnswering files fuel answers).map
        Machine.Session.report := by
  simp only [report, run, stream, machine, Machine.start, h, bind, Except.bind]
  rfl

theorem report_mono {p : Program} {files : FileSystem} {n n' : Nat} {o : RunOptions}
    {d : Discipline} {r : Report} (h : p.report files n o d = some r) (hle : n ≤ n') :
    p.report files n' o d = some r := by
  cases hf : p.find? o.entry with
  | none =>
    rw [report_of_missing hf] at h ⊢
    exact h
  | some f =>
    cases d with
    | buffered inputs =>
      rw [report_buffered hf] at h ⊢
      obtain ⟨s, hs, rfl⟩ := Option.map_eq_some_iff.mp h
      rw [Machine.runAlone_mono hs hle]
      rfl
    | answering answers =>
      rw [report_answering hf] at h ⊢
      obtain ⟨s, hs, rfl⟩ := Option.map_eq_some_iff.mp h
      rw [Machine.runAnswering_mono hs hle]
      rfl

theorem Ends.unique {p : Program} {files : FileSystem} {o : RunOptions} {d : Discipline}
    {r r' : Report} (h : p.Ends files o d r) (h' : p.Ends files o d r') : r = r' := by
  obtain ⟨n, hn⟩ := h
  obtain ⟨n', hn'⟩ := h'
  have hmax := report_mono hn (Nat.le_max_left n n')
  rw [report_mono hn' (Nat.le_max_right n n')] at hmax
  exact (Option.some.inj hmax).symm

end Program

def FileSystem.empty : FileSystem := ⟨fun _ => .error .notFound, fun _ => .error .notFound⟩

end Runbook

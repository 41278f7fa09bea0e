import Runbook.Proofs.Machine.Moves
import Runbook.Proofs.Machine.Refinement

/-!
# What happens in a run, turn by turn

A turn is one step, and the answer if the step asks for a value. A history tells which statements
were begun, and it is there for runs that never end, too. A run ends with a report exactly if some
number of turns brings it there.
-/

namespace Runbook

/-- Something that happens in a run. Only events show outside. -/
inductive Happening where
  | began (s : Statement)
  | event (e : Machine.Event)

def Happening.event? : Happening → Option Machine.Event
  | .began _ => none
  | .event e => some e

def Report.after (r : Report) (earlier : List Machine.Event) : Report :=
  { r with events := earlier ++ r.events }

/-- What happened in a number of turns, and how the run ended in them, if it did. -/
structure History where
  happenings : List Happening
  ended : Option (Except Error Unit × World)

namespace History

def after (h : History) (earlier : List Happening) : History :=
  { h with happenings := earlier ++ h.happenings }

theorem after_after (h : History) (a b : List Happening) :
    (h.after b).after a = h.after (a ++ b) := by
  simp [after]

def report? (h : History) : Option Report :=
  h.ended.map fun (result, w) => ⟨result, w, h.happenings.filterMap Happening.event?⟩

theorem report?_after (h : History) (earlier : List Happening) :
    (h.after earlier).report? =
      h.report?.map fun r => r.after (earlier.filterMap Happening.event?) := by
  obtain ⟨happenings, ended⟩ := h
  cases ended <;> simp [report?, after, Report.after]

end History

theorem Frame.act_printed (files : FileSystem) (f : Frame) (w : World) :
    w.printed.toList <+: (f.act files w).2.printed.toList := by
  rcases f.act_performed files w with ⟨-, hact⟩ | ⟨s, g, -, hperformed⟩
  · simp [hact]
  · generalize f.act files w = done at hperformed ⊢
    cases hperformed <;> simp

namespace Machine

def upcoming (m : Machine) : Option Statement :=
  match m.waiting, m.frames with
  | none, f :: _ => (Cursor.next? f.function.body f.cursor).map Prod.fst
  | _, _ => none

def happenings (m next : Machine) : List Happening :=
  m.upcoming.toList.map .began ++ (next.printedSince m.printed.size).map .event

/-- What happens in a number of turns. Requests are answered with the values in order, and with null
after the last. -/
def history (files : FileSystem) : Nat → Machine → List Value → History
  | 0, _, _ => ⟨[], none⟩
  | n + 1, m, answers =>
    match m.step files with
    | (.ok .running, next) => (history files n next answers).after (m.happenings next)
    | (.ok (.suspended name), stopped) =>
      let seen := m.happenings stopped ++ [.event (.asked name)]
      match stopped.provide (answers.headD .null) with
      | .error e => ⟨seen, some (.error e, stopped.world)⟩
      | .ok resumed => (history files n resumed answers.tail).after seen
    | (.ok .done, stopped) => ⟨m.happenings stopped, some (.ok (), stopped.world)⟩
    | (.error e, stopped) => ⟨m.happenings stopped, some (.error e, stopped.world)⟩

theorem events_happenings (m next : Machine) :
    (m.happenings next).filterMap Happening.event? = next.printedSince m.printed.size := by
  simp [happenings, List.filterMap_append, List.filterMap_map, Function.comp_def, Happening.event?]

/-! ## One turn -/

section

variable {files : FileSystem} {m next stopped resumed : Machine}

theorem history_of_running (h : m.step files = (.ok .running, next)) (n : Nat)
    (answers : List Value) :
    m.history files (n + 1) answers =
      (next.history files n answers).after (m.happenings next) := by
  rw [history, h]

theorem history_of_suspended {name : String} (h : m.step files = (.ok (.suspended name), stopped))
    {answers : List Value} (hprovide : stopped.provide (answers.headD .null) = .ok resumed)
    (n : Nat) :
    m.history files (n + 1) answers = (resumed.history files n answers.tail).after
      (m.happenings stopped ++ [.event (.asked name)]) := by
  rw [history, h]
  simp only [hprovide]

theorem history_of_refused {name : String} (h : m.step files = (.ok (.suspended name), stopped))
    {answers : List Value} {e : Error} (hprovide : stopped.provide (answers.headD .null) = .error e)
    (n : Nat) :
    m.history files (n + 1) answers =
      ⟨m.happenings stopped ++ [.event (.asked name)], some (.error e, stopped.world)⟩ := by
  rw [history, h]
  simp only [hprovide]

theorem history_of_stop {result : Except Error Progress} (h : m.step files = (result, stopped))
    (hrunning : result ≠ .ok .running) (hwait : ∀ name, result ≠ .ok (.suspended name)) (n : Nat)
    (answers : List Value) :
    m.history files (n + 1) answers =
      ⟨m.happenings stopped, some (conclude result, stopped.world)⟩ := by
  rw [history, h]
  cases result with
  | error e => rfl
  | ok progress =>
    cases progress with
    | done => rfl
    | running => exact absurd rfl hrunning
    | suspended name => exact absurd rfl (hwait name)

end

/-! ## What is printed stays printed -/

theorem step_printed {files : FileSystem} {m next : Machine} {result : Except Error Progress}
    (h : m.step files = (result, next)) : m.printed.toList <+: next.printed.toList := by
  have hnext : (m.step files).2 = next := by rw [h]
  rcases m.move_cases (.step files) with hsame | ⟨_, limits, f, below, w, ha, hm, hmoved⟩ |
    ⟨v, limits, f, below, w, name, ha, -⟩
  · have hsame : next = m := hnext.symm.trans hsame
    simp [hsame]
  · obtain rfl := Move.step.inj ha
    have hmoved : next = (settle limits below (f.act files w)).2 := hnext.symm.trans hmoved
    have hprinted : (settle limits below (f.act files w)).2.printed = (f.act files w).2.printed :=
      congrArg World.printed (settle_world limits below (f.act files w))
    rw [hmoved, hprinted, hm]
    exact f.act_printed files w
  · simp at ha

theorem printedSince_append {m next stopped : Machine} (h : m.printed.toList <+: next.printed.toList)
    (h' : next.printed.toList <+: stopped.printed.toList) :
    stopped.printedSince m.printed.size =
      next.printedSince m.printed.size ++ stopped.printedSince next.printed.size := by
  obtain ⟨first, hfirst⟩ := h
  obtain ⟨second, hsecond⟩ := h'
  have hnext : next.printed.toList.drop m.printed.size = first := by
    rw [← hfirst, ← Array.length_toList, List.drop_left]
  have hstopped : stopped.printed.toList.drop next.printed.size = second := by
    rw [← hsecond, ← Array.length_toList, List.drop_left]
  have hboth : stopped.printed.toList.drop m.printed.size = first ++ second := by
    rw [← hsecond, ← hfirst, ← Array.length_toList, List.append_assoc, List.drop_left]
  rw [printedSince, printedSince, printedSince, hnext, hstopped, hboth, List.map_append]

/-! ## Turns and runs -/

theorem history_of_run {files : FileSystem} {m : Machine} {fuel : Nat} {out : Outcome}
    (h : m.runUntilSuspended files fuel = some out) :
    ∃ (last : Machine) (turns : Nat) (seen : List Happening),
      last.step files = out ∧ out.1 ≠ .ok .running ∧ m.printed.toList <+: last.printed.toList ∧
        seen.filterMap Happening.event? = last.printedSince m.printed.size ∧
        ∀ n answers,
          m.history files (turns + n) answers = (last.history files n answers).after seen := by
  induction fuel generalizing m with
  | zero => simp [runUntilSuspended] at h
  | succ fuel ih =>
    by_cases hstop : (m.step files).1 = .ok .running
    · have hstep : m.step files = (.ok .running, (m.step files).2) := by rw [← hstop]
      have hgrown := step_printed hstep
      rw [runUntilSuspended_of_step hstep] at h
      obtain ⟨last, turns, seen, hlast, hout, hprinted, hseen, hturns⟩ := ih h
      refine ⟨last, turns + 1, m.happenings (m.step files).2 ++ seen, hlast, hout,
        hgrown.trans hprinted, ?_, fun n answers => ?_⟩
      · rw [List.filterMap_append, events_happenings, hseen, printedSince_append hgrown hprinted]
      · rw [Nat.add_right_comm, history_of_running hstep, hturns, History.after_after]
    · rw [runUntilSuspended_of_stop rfl hstop] at h
      refine ⟨m, 0, [], Option.some.inj h, ?_, List.prefix_refl _, by simp [printedSince], ?_⟩
      · rwa [← Option.some.inj h]
      · intro n answers
        rw [Nat.zero_add]
        rfl

theorem history_of_answering {files : FileSystem} {m : Machine} {fuel : Nat} {answers : List Value}
    {s : Session} (h : m.runAnswering files fuel answers = some s) :
    ∃ n, (m.history files n answers).report? = some s.report := by
  -- One unit of fuel is a whole stretch up to the next request, and a stretch is many turns.
  induction fuel generalizing m answers s with
  | zero => simp [runAnswering] at h
  | succ fuel ih =>
    rw [runAnswering] at h
    cases hrun : m.runUntilSuspended files fuel with
    | none => simp [hrun] at h
    | some out =>
      obtain ⟨result, stopped⟩ := out
      obtain ⟨last, turns, seen, hlast, hrunning, hprinted, hseen, hturns⟩ := history_of_run hrun
      have hevents := printedSince_append hprinted (step_printed hlast)
      have hended : ∀ (hwait : ∀ name, result ≠ .ok (.suspended name)),
          (m.history files (turns + 1) answers).report? =
            some ⟨conclude result, stopped.world, stopped.printedSince m.printed.size⟩ := by
        intro hwait
        rw [hturns, history_of_stop hlast hrunning hwait, History.report?_after]
        simp [History.report?, events_happenings, Report.after, hseen, hevents]
      rw [hrun] at h
      cases result with
      | error e =>
        obtain rfl := Option.some.inj h
        exact ⟨turns + 1, hended (by simp)⟩
      | ok progress =>
        cases progress with
        | running => exact absurd rfl hrunning
        | done =>
          obtain rfl := Option.some.inj h
          exact ⟨turns + 1, hended (by simp)⟩
        | suspended name =>
          cases hprovide : stopped.provide (answers.headD .null) with
          | error e =>
            simp only [hprovide] at h
            obtain rfl := Option.some.inj h
            refine ⟨turns + 1, ?_⟩
            rw [hturns, history_of_refused hlast hprovide, History.report?_after]
            simp [History.report?, events_happenings, Report.after, hseen, hevents, Session.report,
              Happening.event?]
          | ok resumed =>
            simp only [hprovide] at h
            obtain ⟨rest, hrest, rfl⟩ := Option.map_eq_some_iff.mp h
            obtain ⟨n, hn⟩ := ih hrest
            refine ⟨turns + (n + 1), ?_⟩
            rw [hturns, history_of_suspended hlast hprovide, History.after_after,
              History.report?_after, hn]
            simp [events_happenings, Report.after, hseen, hevents, Session.report,
              Happening.event?]

theorem runAnswering_of_step {files : FileSystem} {m next : Machine} {fuel : Nat}
    {answers : List Value} {s : Session} (hstep : m.step files = (.ok .running, next))
    (h : next.runAnswering files fuel answers = some s) :
    m.runAnswering files (fuel + 1) answers =
      some { s with events := next.printedSince m.printed.size ++ s.events } := by
  cases fuel with
  | zero => simp [runAnswering] at h
  | succ fuel =>
    rw [runAnswering] at h ⊢
    rw [runUntilSuspended_of_step hstep]
    cases hrun : next.runUntilSuspended files fuel with
    | none => simp [hrun] at h
    | some out =>
      obtain ⟨result, stopped⟩ := out
      obtain ⟨last, turns, seen, hlast, -, hprinted, -⟩ := history_of_run hrun
      have hevents :=
        printedSince_append (step_printed hstep) (hprinted.trans (step_printed hlast))
      rw [hrun] at h
      cases result with
      | error e =>
        obtain rfl := Option.some.inj h
        simp only [hevents]
      | ok progress =>
        cases progress with
        | running | done =>
          obtain rfl := Option.some.inj h
          simp only [hevents]
        | suspended name =>
          cases hprovide : stopped.provide (answers.headD .null) with
          | error e =>
            simp only [hprovide] at h ⊢
            obtain rfl := Option.some.inj h
            simp only [hevents, List.append_assoc]
          | ok resumed =>
            simp only [hprovide] at h ⊢
            obtain ⟨rest, hrest, rfl⟩ := Option.map_eq_some_iff.mp h
            rw [runAnswering_mono hrest (Nat.le_succ fuel)]
            simp only [Option.map_some, hevents, List.append_assoc]

theorem answering_of_history {files : FileSystem} {m : Machine} {n : Nat} {answers : List Value}
    {r : Report} (h : (m.history files n answers).report? = some r) :
    ∃ fuel, (m.runAnswering files fuel answers).map Session.report = some r := by
  induction n generalizing m answers r with
  | zero => simp [history, History.report?] at h
  | succ n ih =>
    have hended : ∀ {result stopped}, m.step files = (result, stopped) → result ≠ .ok .running →
        (∀ name, result ≠ .ok (.suspended name)) →
          (m.runAnswering files 2 answers).map Session.report = some r := by
      intro result stopped hstep hrunning hwait
      rw [history_of_stop hstep hrunning hwait] at h
      obtain rfl := Option.some.inj h
      rw [runAnswering_of_ended (runUntilSuspended_of_stop hstep hrunning) hwait, reportOf]
      simp only [events_happenings]
    obtain ⟨⟨result, next⟩, hstep⟩ : ∃ out, m.step files = out := ⟨_, rfl⟩
    cases result with
    | error e => exact ⟨2, hended hstep (by simp) (by simp)⟩
    | ok progress =>
      cases progress with
      | done => exact ⟨2, hended hstep (by simp) (by simp)⟩
      | running =>
        rw [history_of_running hstep, History.report?_after] at h
        obtain ⟨rest, hrest, rfl⟩ := Option.map_eq_some_iff.mp h
        obtain ⟨fuel, hfuel⟩ := ih hrest
        obtain ⟨s, hs, rfl⟩ := Option.map_eq_some_iff.mp hfuel
        refine ⟨fuel + 1, ?_⟩
        rw [runAnswering_of_step hstep hs, events_happenings]
        rfl
      | suspended name =>
        have hrun : m.runUntilSuspended files 1 = some (.ok (.suspended name), next) :=
          runUntilSuspended_of_stop hstep (by simp)
        cases hprovide : next.provide (answers.headD .null) with
        | error e =>
          rw [history_of_refused hstep hprovide] at h
          obtain rfl := Option.some.inj h
          refine ⟨2, ?_⟩
          rw [runAnswering, hrun]
          simp only [hprovide]
          simp [Session.report, events_happenings, Happening.event?]
        | ok resumed =>
          rw [history_of_suspended hstep hprovide, History.report?_after] at h
          obtain ⟨rest, hrest, rfl⟩ := Option.map_eq_some_iff.mp h
          obtain ⟨fuel, hfuel⟩ := ih hrest
          obtain ⟨s, hs, rfl⟩ := Option.map_eq_some_iff.mp hfuel
          refine ⟨fuel + 2, ?_⟩
          rw [runAnswering, runUntilSuspended_mono hrun (by omega)]
          simp only [hprovide]
          rw [runAnswering_mono hs (by omega)]
          simp [Session.report, Report.after, events_happenings, Happening.event?]

end Machine

def Discipline.answers : Discipline → List Value
  | .buffered _ => []
  | .answering answers => answers

namespace Program

def history (p : Program) (files : FileSystem) (n : Nat) (o : RunOptions) (d : Discipline) :
    History :=
  match p.find? o.entry with
  | none => ⟨[], some (.error (.unknownEntry o.entry), o.world d)⟩
  | some f => (p.initial f o d).history files n d.answers

theorem ends_buffered_iff_answering {p : Program} {o : RunOptions} {f : Function}
    (hf : p.find? o.entry = some f) {files : FileSystem} {inputs : List Value} {r : Report} :
    p.Ends files o (.buffered inputs) r ↔
      ∃ fuel, ((p.initial f o (.buffered inputs)).runAnswering files fuel []).map
        Machine.Session.report = some r := by
  have hinput : (o.world (.buffered inputs)).input = .buffered inputs := rfl
  have hended : ∀ {fuel out},
      (p.initial f o (.buffered inputs)).runUntilSuspended files fuel = some out →
        ((p.initial f o (.buffered inputs)).runAnswering files (fuel + 1) []).map
          Machine.Session.report = p.report files fuel o (.buffered inputs) := by
    intro fuel out hrun
    rw [report_buffered hf, Machine.runAlone_report, hrun,
      Machine.runAnswering_of_ended hrun (Machine.run_buffered hinput hrun)]
    rfl
  constructor
  · rintro ⟨fuel, hfuel⟩
    refine ⟨fuel + 1, ?_⟩
    cases hrun : (p.initial f o (.buffered inputs)).runUntilSuspended files fuel with
    | none => simp [report_buffered hf, Machine.runAlone_report, hrun] at hfuel
    | some out => rw [hended hrun, hfuel]
  · rintro ⟨fuel, hfuel⟩
    cases fuel with
    | zero => simp [Machine.runAnswering] at hfuel
    | succ fuel =>
      refine ⟨fuel, ?_⟩
      cases hrun : (p.initial f o (.buffered inputs)).runUntilSuspended files fuel with
      | none => simp [Machine.runAnswering, hrun] at hfuel
      | some out => rw [← hended hrun, hfuel]

theorem ends_iff_history (p : Program) (files : FileSystem) (o : RunOptions) (d : Discipline)
    (r : Report) : p.Ends files o d r ↔ ∃ n, (p.history files n o d).report? = some r := by
  cases hf : p.find? o.entry with
  | none =>
    simp only [Ends, report_of_missing hf, history, hf]
    rfl
  | some f =>
    have hends : p.Ends files o d r ↔ ∃ fuel, ((p.initial f o d).runAnswering files fuel
        d.answers).map Machine.Session.report = some r := by
      cases d with
      | buffered inputs => exact ends_buffered_iff_answering hf
      | answering answers => simp only [Ends, report_answering hf, Discipline.answers]
    simp only [hends, history, hf]
    constructor
    · rintro ⟨fuel, hfuel⟩
      obtain ⟨s, hs, rfl⟩ := Option.map_eq_some_iff.mp hfuel
      exact Machine.history_of_answering hs
    · rintro ⟨n, hn⟩
      exact Machine.answering_of_history hn

end Program

end Runbook

import Runbook.Proofs.Machine.History

/-!
# Waiting for input

A machine waits only after its innermost call has asked for a value, and then nothing but an
answer moves it on. Moves that come too early or too late change nothing, so the machine that a
driver ends with depends only on the moves that were taken up.
-/

namespace Runbook

/-! ## What a step can fail with -/

def Error.OfInput (e : Error) : Prop := e = .unexpectedInput ∨ ∃ name, e = .inputRequired name

theorem Frame.act_fail {files : FileSystem} {f g : Frame} {w : World} {e : Error}
    (h : (f.act files w).1 = .fail g e) : (∃ cause, e = .evaluation cause) ∨ e.OfLookup := by
  rcases f.act_performed files w with ⟨-, hact⟩ | ⟨s, moved, -, hact⟩
  · simp [hact] at h
  · generalize f.act files w = done at hact h
    cases hact with
    | failed cause => exact .inl ⟨cause, (Deed.fail.inj h).2.symm⟩
    | unresolved hresolve =>
      obtain ⟨-, rfl⟩ := Deed.fail.inj h
      exact .inr (Library.resolve_ofLookup hresolve)
    | printed | stored | entered | skipped | left | asked | called => simp at h

namespace Machine

theorem settle_error {limits : Limits} {below : List Frame} {done : Deed × World} {e : Error}
    (h : (settle limits below done).1 = .error e) :
    (∃ f, done.1 = .fail f e) ∨ ∃ function limit, e = .callDepthExceeded function limit := by
  obtain ⟨deed, w⟩ := done
  cases deed with
  | proceed f | finish | wait f name => simp [settle] at h
  | fail f cause => exact .inl ⟨f, by rw [Except.error.inj h]⟩
  | call f program function args =>
    simp only [settle] at h
    split at h
    · simp at h
    · split at h
      · exact .inr ⟨_, _, (Except.error.inj h).symm⟩
      · simp at h

theorem step_error_kind {m : Machine} {files : FileSystem} {e : Error}
    (h : (m.step files).1 = .error e) :
    (∃ cause, e = .evaluation cause) ∨ e.OfLookup ∨
      ∃ function limit, e = .callDepthExceeded function limit := by
  rcases m.step_cases files with ⟨name, -, hstep⟩ | ⟨-, -, hstep⟩ | ⟨f, below, -, hstep⟩
  · simp [hstep] at h
  · simp [hstep] at h
  · rw [hstep] at h
    rcases settle_error h with ⟨g, hfail⟩ | hdepth
    · rcases Frame.act_fail hfail with hcause | hlookup
      · exact .inl hcause
      · exact .inr (.inl hlookup)
    · exact .inr (.inr hdepth)

theorem step_not_ofInput {m : Machine} {files : FileSystem} {e : Error}
    (h : (m.step files).1 = .error e) : ¬ e.OfInput := by
  rcases step_error_kind h with ⟨cause, rfl⟩ | hlookup | ⟨function, limit, rfl⟩
  · simp [Error.OfInput]
  · cases hlookup <;> simp [Error.OfInput]
  · simp [Error.OfInput]

end Machine

/-! ## The request that a machine waits for -/

theorem Frame.act_wait {files : FileSystem} {f g : Frame} {w : World} {name : String}
    (h : (f.act files w).1 = .wait g name) :
    w.input = .interactive ∧ (f.act files w).2 = w ∧
      Cursor.JustPassed g.function.body g.cursor (.ask name) := by
  have hinput : w.input = .interactive := by
    cases hinput : w.input with
    | interactive => rfl
    | buffered values => exact absurd h ((f.act_buffered hinput files).1 g name)
  rcases f.act_performed files w with ⟨-, hact⟩ | ⟨s, moved, hpass, hact⟩
  · simp [hact] at h
  · have hpassed := Cursor.justPassed_of_next? hpass.next
    rw [← hpass.function] at hpassed
    generalize f.act files w = done at hact h
    cases hact with
    | asked =>
      obtain ⟨rfl, rfl⟩ := Deed.wait.inj h
      exact ⟨hinput, rfl, hpassed⟩
    | printed | stored | entered | skipped | left | failed | unresolved | called => simp at h

namespace Machine

def WaitsForRequest (m : Machine) : Prop :=
  ∀ name, m.waiting = some name → m.input = .interactive ∧
    ∃ f below, m.frames = f :: below ∧ Cursor.JustPassed f.function.body f.cursor (.ask name)

theorem waitsForRequest_settle (files : FileSystem) (limits : Limits) (f : Frame)
    (below : List Frame) (w : World) : WaitsForRequest (settle limits below (f.act files w)).2 := by
  intro name hname
  obtain ⟨g, hdeed, hframes⟩ := settle_waiting hname
  obtain ⟨hinput, hworld, hpassed⟩ := Frame.act_wait hdeed
  refine ⟨?_, g, below, hframes, hpassed⟩
  have hsettled := congrArg World.input (settle_world limits below (f.act files w))
  rw [hworld, hinput] at hsettled
  exact hsettled

theorem waitsForRequest_moves {p : Program} {o : RunOptions} {input : Input} {m : Machine}
    (h : p.machine o input = .ok m) (schedule : List Move) :
    WaitsForRequest (m.moves schedule).2 := by
  obtain ⟨f, -, rfl⟩ := running_of_machine h
  have hstart : WaitsForRequest (running o.limits [.start p f o.args] ⟨#[], input, o.library⟩) := by
    simp [WaitsForRequest, running]
  have hmet : ∀ files, Move.step files ∈ schedule → True := fun _ _ => trivial
  refine moves_invariant ?_ ?_ hstart hmet
  · intro files limits g below w _ _
    exact waitsForRequest_settle files limits g below w
  · intro limits g below w name v _
    simp [WaitsForRequest, running]

structure Supplied (m : Machine) : Prop where
  waiting : m.waiting = none
  input : ∃ values, m.input = .buffered values

theorem supplied_settle {limits : Limits} {f : Frame} {below : List Frame} {w : World}
    (h : Supplied (running limits (f :: below) w)) (files : FileSystem) :
    Supplied (settle limits below (f.act files w)).2 := by
  obtain ⟨values, hinput⟩ := h.input
  obtain ⟨hwait, hlater⟩ := Frame.act_buffered hinput files
  rcases settle_cases limits below (f.act files w) with ⟨frames, hgo⟩ | ⟨g, name, hdeed, -⟩ |
    ⟨e, g, hfail⟩
  · rw [hgo]
    exact ⟨rfl, hlater⟩
  · exact absurd hdeed (hwait g name)
  · rw [hfail]
    exact ⟨rfl, hlater⟩

theorem Supplied.step_ne {m : Machine} (h : Supplied m) (files : FileSystem) (name : String) :
    (m.step files).1 ≠ .ok (.suspended name) := by
  rcases m.step_cases files with ⟨other, hwaiting, -⟩ | ⟨-, -, hstep⟩ | ⟨f, below, -, hstep⟩
  · simp [h.waiting] at hwaiting
  · simp [hstep]
  · obtain ⟨values, hinput⟩ := h.input
    have hwait := (f.act_buffered (w := m.world) hinput files).1
    rw [hstep]
    rcases settle_cases m.limits below (f.act files m.world) with ⟨frames, hgo⟩ |
      ⟨g, other, hdeed, -⟩ | ⟨e, g, hfail⟩
    · simp [hgo]
    · exact absurd hdeed (hwait g other)
    · simp [hfail]

theorem supplied_moves {p : Program} {o : RunOptions} {inputs : List Value} {m : Machine}
    (h : p.machine o (.buffered inputs) = .ok m) (schedule : List Move) :
    Supplied (m.moves schedule).2 := by
  obtain ⟨f, -, rfl⟩ := running_of_machine h
  have hstart : Supplied (running o.limits [.start p f o.args] ⟨#[], .buffered inputs, o.library⟩) :=
    ⟨rfl, inputs, rfl⟩
  have hmet : ∀ files, Move.step files ∈ schedule → True := fun _ _ => trivial
  refine moves_invariant ?_ ?_ hstart hmet
  · intro files limits g below w _ hg
    exact supplied_settle hg files
  · intro limits g below w name v hg
    have hwaiting := hg.waiting
    simp [paused] at hwaiting

/-! ## Moves in vain -/

/-- The machine does not take the move up: it waits and is to take a step, or it is given a value
that it did not ask for. -/
def declines (m : Machine) : Move → Bool
  | .step _ => m.waiting.isSome
  | .provide v =>
    match m.provide v with
    | .ok _ => false
    | .error _ => true

theorem move_of_declines {m : Machine} {a : Move} (h : m.declines a = true) : (m.move a).2 = m := by
  cases a with
  | step files =>
    obtain ⟨name, hname⟩ := Option.isSome_iff_exists.mp h
    simp [move, step, hname]
  | provide v =>
    cases hprovide : m.provide v with
    | ok resumed => simp [declines, hprovide] at h
    | error e => simp only [move, hprovide]

def takenUp (m : Machine) : List Move → List Move
  | [] => []
  | a :: rest =>
    if m.declines a then (m.move a).2.takenUp rest else a :: (m.move a).2.takenUp rest

theorem moves_takenUp (m : Machine) (schedule : List Move) :
    (m.moves (m.takenUp schedule)).2 = (m.moves schedule).2 := by
  induction schedule generalizing m with
  | nil => rfl
  | cons a rest ih =>
    unfold takenUp
    split
    · rename_i hdeclines
      rw [moves, move_of_declines hdeclines]
      exact ih m
    · exact ih (m.move a).2

theorem provide_of_waiting {m : Machine} {name : String} {f : Frame} {below : List Frame}
    (hname : m.waiting = some name) (hframes : m.frames = f :: below) (v : Value) :
    m.provide v = .ok { m with frames := f.set name v :: below, waiting := none } := by
  simp [provide, store, hname, hframes]

theorem provide_of_not_waiting {m : Machine} (h : m.waiting = none) (v : Value) :
    m.provide v = .error .unexpectedInput := by
  simp [provide, h]

theorem step_of_waiting {m : Machine} {name : String} (h : m.waiting = some name)
    (files : FileSystem) : m.step files = (.ok (.suspended name), m) := by
  simp [step, h]

end Machine

theorem Program.not_ofInput_of_ends {p : Program} {files : FileSystem} {o : RunOptions}
    {inputs : List Value} {r : Report} {e : Error} (h : p.Ends files o (.buffered inputs) r)
    (he : r.result = .error e) : ¬ e.OfInput := by
  obtain ⟨fuel, hfuel⟩ := h
  cases hf : p.find? o.entry with
  | none =>
    rw [report_of_missing hf] at hfuel
    obtain rfl := Option.some.inj hfuel
    obtain rfl := Except.error.inj he
    simp [Error.OfInput]
  | some f =>
    rw [report_buffered hf, Machine.runAlone_report] at hfuel
    obtain ⟨out, hrun, rfl⟩ := Option.map_eq_some_iff.mp hfuel
    have hinput : (o.world (.buffered inputs)).input = .buffered inputs := rfl
    have hwait := Machine.run_buffered hinput hrun
    obtain ⟨last, -, -, hlast, -⟩ := Machine.history_of_run hrun
    obtain ⟨result, stopped⟩ := out
    cases result with
    | ok progress =>
      cases progress with
      | suspended name => exact absurd rfl (hwait name)
      | running | done => simp [Machine.reportOf, Machine.conclude] at he
    | error cause =>
      obtain rfl : cause = e := by simpa [Machine.reportOf, Machine.conclude] using he
      exact Machine.step_not_ofInput (by rw [hlast])

namespace Machine

/-- Waiting does not depend on when a driver makes its moves. After any moves, a machine that waits
takes its input from outside, and its innermost call has just asked for the variable. It takes a
value exactly if it waits, and the value is stored in that variable of that call, with nothing else
changed but that it waits no more. A value it did not ask for and a step while it waits change
nothing; so without all of these a schedule leads to the same machine. A machine whose input is
there from the start never waits, and its runs do not fail for input. -/
theorem suspension_schedule_independent (p : Program) (o : RunOptions) :
    (∀ input m, p.machine o input = .ok m → ∀ schedule,
      let reached := (m.moves schedule).2
      (∀ name, reached.waiting = some name → reached.input = .interactive ∧
        ∃ f below, reached.frames = f :: below ∧
          Cursor.JustPassed f.function.body f.cursor (.ask name)) ∧
      (∀ v, (∃ resumed, reached.provide v = .ok resumed) ↔ ∃ name, reached.waiting = some name) ∧
      (∀ v resumed, reached.provide v = .ok resumed →
        ∃ name f below, reached.waiting = some name ∧ reached.frames = f :: below ∧
          resumed = { reached with frames := f.set name v :: below, waiting := none } ∧
          ∀ other, (f.set name v).vars.lookup other =
            if other = name then some v else f.vars.lookup other) ∧
      (∀ v e, reached.provide v = .error e →
        e = .unexpectedInput ∧ (reached.move (.provide v)).2 = reached) ∧
      (∀ files name, reached.waiting = some name →
        reached.step files = (.ok (.suspended name), reached)) ∧
      (m.moves (m.takenUp schedule)).2 = reached) ∧
    (∀ inputs m, p.machine o (.buffered inputs) = .ok m → ∀ schedule,
      (m.moves schedule).2.waiting = none ∧
      ∀ files name, ((m.moves schedule).2.step files).1 ≠ .ok (.suspended name)) ∧
    ∀ inputs files r, p.Ends files o (.buffered inputs) r →
      (∀ name, r.result ≠ .error (.inputRequired name)) ∧ r.result ≠ .error .unexpectedInput := by
  refine ⟨?_, ?_, ?_⟩
  · intro input m h schedule reached
    have hrequest : WaitsForRequest reached := waitsForRequest_moves h schedule
    -- whether the machine waits decides what becomes of an answer
    have hanswer : (∃ name f below, reached.waiting = some name ∧ reached.frames = f :: below) ∨
        reached.waiting = none := by
      cases hwaiting : reached.waiting with
      | none => exact .inr rfl
      | some name =>
        obtain ⟨-, f, below, hframes, -⟩ := hrequest name hwaiting
        exact .inl ⟨name, f, below, rfl, hframes⟩
    refine ⟨hrequest, ?_, ?_, ?_, ?_, moves_takenUp m schedule⟩
    · intro v
      rcases hanswer with ⟨name, f, below, hname, hframes⟩ | hnone
      · simp [provide_of_waiting hname hframes, hname]
      · simp [provide_of_not_waiting hnone, hnone]
    · intro v resumed hresumed
      rcases hanswer with ⟨name, f, below, hname, hframes⟩ | hnone
      · rw [provide_of_waiting hname hframes] at hresumed
        exact ⟨name, f, below, hname, hframes, (Except.ok.inj hresumed).symm,
          fun other => Bindings.lookup_set f.vars name other v⟩
      · rw [provide_of_not_waiting hnone] at hresumed
        simp at hresumed
    · intro v e herror
      have hdeclines : reached.declines (.provide v) = true := by simp [declines, herror]
      refine ⟨?_, move_of_declines hdeclines⟩
      rcases hanswer with ⟨name, f, below, hname, hframes⟩ | hnone
      · rw [provide_of_waiting hname hframes] at herror
        simp at herror
      · rw [provide_of_not_waiting hnone] at herror
        exact (Except.error.inj herror).symm
    · intro files name hname
      exact step_of_waiting hname files
  · intro inputs m h schedule
    have hsupplied := supplied_moves h schedule
    exact ⟨hsupplied.waiting, hsupplied.step_ne⟩
  · intro inputs files r h
    constructor
    · intro name he
      exact Program.not_ofInput_of_ends h he (.inr ⟨name, rfl⟩)
    · intro he
      exact Program.not_ofInput_of_ends h he (.inl rfl)

theorem suspension_schedule_independent_asking :
    let p : Program := ⟨"", [⟨"main", [], [.guard (.bool true) [.ask "x", .print (.var "x")],
      .ask "y"]⟩], by decide⟩
    let files : FileSystem := .empty
    let schedule : List Move := [.provide .null, .step files, .step files, .step files,
      .provide (.str "hi"), .provide .null, .step files, .step files]
    (∃ m f below, p.machine {} .interactive = .ok m ∧
      (m.moves schedule).2.waiting = some "y" ∧ (m.moves schedule).2.printed = #[.str "hi"] ∧
      (m.moves schedule).2.frames = f :: below ∧
      Cursor.JustPassed f.function.body f.cursor (.ask "y") ∧
      (m.moves [.step files, .step files, .provide (.str "hi"), .step files, .step files]).2 =
        (m.moves schedule).2) ∧
    ∃ m, p.machine {} (.buffered [.str "hi"]) = .ok m ∧ (m.moves schedule).2.waiting = none := by
  intro p files schedule
  obtain ⟨hinteractive, hbuffered, -⟩ := suspension_schedule_independent p {}
  constructor
  · obtain ⟨m, hm⟩ : ∃ m, p.machine {} .interactive = .ok m := ⟨_, rfl⟩
    obtain ⟨hwaits, -, -, -, -, htaken⟩ := hinteractive _ m hm schedule
    have hwaiting : (m.moves schedule).2.waiting = some "y" ∧
        (m.moves schedule).2.printed = #[.str "hi"] := by
      obtain rfl := Except.ok.inj hm
      exact ⟨rfl, rfl⟩
    have hkept : m.takenUp schedule =
        [.step files, .step files, .provide (.str "hi"), .step files, .step files] := by
      obtain rfl := Except.ok.inj hm
      rfl
    obtain ⟨-, f, below, hframes, hasked⟩ := hwaits "y" hwaiting.1
    rw [hkept] at htaken
    exact ⟨m, f, below, hm, hwaiting.1, hwaiting.2, hframes, hasked, htaken⟩
  · obtain ⟨m, hm⟩ : ∃ m, p.machine {} (.buffered [.str "hi"]) = .ok m := ⟨_, rfl⟩
    exact ⟨m, hm, (hbuffered _ m hm schedule).1⟩

end Machine

end Runbook

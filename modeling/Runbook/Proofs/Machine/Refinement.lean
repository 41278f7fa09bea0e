import Runbook.Proofs.Machine.Runs
import Runbook.Proofs.Machine.Structured

/-!
# The machine runs what structured execution says

A stack of calls stands for what is still to run: its innermost call to the end, then the one
below, and so on. Each step keeps what the stack comes to, whether or not a call takes the place
of its caller; and whatever structured execution comes to, the machine reaches, unless it runs
into its depth limit.
-/

namespace Runbook

/-! ## Arguments -/

theorem Bindings.get_ofArgs (b : Bindings) (params : List String) (args : List Value) :
    get (b.ofArgs params args) =
      (params.zip (args ++ List.replicate (params.length - args.length) .undefined)).foldl
        (fun env (param, v) => Env.set env param v) b.get := by
  induction params generalizing b args with
  | nil => simp [ofArgs]
  | cons param params ih =>
    cases args with
    | nil =>
      rw [ofArgs, ih, get_set]
      simp [List.replicate_succ]
      rfl
    | cons a args =>
      rw [ofArgs, ih, get_set]
      simp
      rfl

theorem Frame.get_start (program : Program) (function : Function) (args : List Value) :
    (start program function args).get = Env.ofArgs function.params args :=
  Bindings.get_ofArgs .empty function.params args

theorem Frame.get_set (f : Frame) (name : String) (v : Value) :
    (f.set name v).get = Env.set f.get name v :=
  Bindings.get_set f.vars name v

/-! ## One call -/

def Frame.evaluate (files : FileSystem) (calls : Calls) (f : Frame) (w : World) :
    Option (Except Error Unit × World) :=
  (Statement.execAll files calls f.program f.remaining f.get w).map Ending.forget

theorem callsTo_succ (files : FileSystem) (depth : Nat) (program : Program) (function : Function)
    (args : List Value) (w : World) :
    callsTo files (depth + 1) program function args w =
      (Frame.start program function args).evaluate files (callsTo files depth) w := by
  rw [Frame.evaluate, Frame.remaining_start, Frame.get_start]
  rfl

theorem Frame.evaluate_mono {files : FileSystem} {calls calls' : Calls} {f : Frame} {w : World}
    {r : Except Error Unit × World} (hle : calls.Below calls')
    (h : f.evaluate files calls w = some r) : f.evaluate files calls' w = some r := by
  obtain ⟨ended, hended, rfl⟩ := Option.map_eq_some_iff.mp h
  rw [evaluate, Statement.execAll_mono hle _ _ _ ended hended]
  rfl

def Deed.evaluate (files : FileSystem) (calls : Calls) :
    Deed × World → Option (Except Error Unit × World)
  | (.proceed f, w) => f.evaluate files calls w
  | (.finish, w) => some (.ok (), w)
  | (.wait _ _, _) => none
  | (.call f program function args, w) =>
    match calls program function args w with
    | some (.ok _, w) => f.evaluate files calls w
    | ended => ended
  | (.fail _ e, w) => some (.error e, w)

theorem Frame.evaluate_perform (files : FileSystem) (calls : Calls) (f : Frame) (w : World)
    (s : Statement)
    (henter : ∀ test body, s = .guard test body → f.enter.remaining = body ++ f.remaining) :
    (Statement.execAll files calls f.program (s :: f.remaining) f.get w).map Ending.forget =
      Deed.evaluate files calls (f.perform files w s) := by
  cases s with
  | print e =>
    rw [Statement.execAll, Statement.exec, perform, eval]
    cases e.eval f.get <;> rfl
  | assign name op value =>
    rw [Statement.execAll, Statement.exec, perform, eval]
    cases value.eval f.get with
    | error err => rfl
    | ok v =>
      simp only [Deed.evaluate, evaluate, get_set]
      rfl
  | guard test body =>
    cases hv : test.eval f.get with
    | error err =>
      rw [Statement.execAll, Statement.exec, perform, eval, hv]
      rfl
    | ok v =>
      cases htrue : v.isTruthy with
      | true =>
        rw [Statement.execAll_guard hv htrue, perform, eval, hv, ← henter test body rfl]
        simp only [htrue, if_true]
        rfl
      | false =>
        rw [Statement.execAll, Statement.exec, perform, eval, hv]
        simp only [htrue]
        rfl
  | leave => rfl
  | ask name =>
    rw [Statement.execAll, Statement.exec, perform]
    obtain ⟨printed, input, library⟩ := w
    cases input with
    | interactive => rfl
    | buffered values =>
      cases values <;> simp only [Deed.evaluate, evaluate, get_set] <;> rfl
  | call function file args =>
    rw [Statement.execAll, Statement.exec, perform]
    have hargs : args.mapM f.eval = args.mapM (·.eval f.get) := rfl
    rw [hargs]
    cases args.mapM (·.eval f.get) with
    | error err => rfl
    | ok values =>
      obtain ⟨resolved, library⟩ := w.library.resolve files f.program function file
      cases resolved with
      | error e => rfl
      | ok callee =>
        obtain ⟨program, g⟩ := callee
        simp only [Deed.evaluate]
        cases calls program g values { w with library := library } with
        | none => rfl
        | some ended =>
          obtain ⟨result, w'⟩ := ended
          cases result <;> rfl

theorem Frame.evaluate_eq (files : FileSystem) (calls : Calls) (f : Frame) (w : World) :
    f.evaluate files calls w = Deed.evaluate files calls (f.act files w) := by
  obtain ⟨hnil, hact⟩ | ⟨s, g, hpass, hact⟩ := f.act_cases
  · rw [hact, evaluate, hnil]
    rfl
  · have hget : f.get = g.get := by
      funext name
      rw [get, get, hpass.vars]
    rw [hact, evaluate, hpass.remaining, hget, ← hpass.program]
    exact g.evaluate_perform files calls w s hpass.enter

theorem Frame.evaluate_of_atTail {f : Frame} (h : f.atTail = true) (files : FileSystem)
    (calls : Calls) (w : World) : f.evaluate files calls w = some (.ok (), w) := by
  rw [evaluate_eq, act_of_atTail h]
  rfl

/-! ## The stack -/

/-- What a stack of calls comes to: each call in turn, the innermost first, until one fails. -/
def unwind (files : FileSystem) (depth : Nat) :
    List Frame → World → Option (Except Error Unit × World)
  | [], w => some (.ok (), w)
  | f :: below, w =>
    match f.evaluate files (callsTo files depth) w with
    | some (.ok _, w) => unwind files depth below w
    | ended => ended

theorem unwind_cons {files : FileSystem} {depth : Nat} {f : Frame} {below : List Frame} {w : World}
    {r : Except Error Unit × World} (h : unwind files depth (f :: below) w = some r) :
    (∃ w', f.evaluate files (callsTo files depth) w = some (.ok (), w') ∧
      unwind files depth below w' = some r) ∨
    ∃ e w', f.evaluate files (callsTo files depth) w = some (.error e, w') ∧ r = (.error e, w') := by
  rw [unwind] at h
  split at h
  · rename_i u w' hf
    exact .inl ⟨w', hf, h⟩
  · rename_i hended
    obtain ⟨result, w'⟩ := r
    cases result with
    | error e => exact .inr ⟨e, w', h, rfl⟩
    | ok u => exact absurd h (hended _ _)

theorem unwind_succ {files : FileSystem} {depth : Nat} {frames : List Frame} {w : World}
    {r : Except Error Unit × World} (h : unwind files depth frames w = some r) :
    unwind files (depth + 1) frames w = some r := by
  induction frames generalizing w with
  | nil => exact h
  | cons f below ih =>
    have hmono := callsTo_below_succ files depth
    obtain ⟨w', hf, hbelow⟩ | ⟨e, w', hf, rfl⟩ := unwind_cons h
    · rw [unwind, f.evaluate_mono hmono hf]
      exact ih hbelow
    · rw [unwind, f.evaluate_mono hmono hf]

theorem unwind_single (files : FileSystem) (depth : Nat) (f : Frame) (w : World) :
    unwind files depth [f] w = f.evaluate files (callsTo files depth) w := by
  rw [unwind]
  split
  · rename_i u w' h
    rw [h]
    rfl
  · rfl

namespace Machine

theorem unwind_of_settle {files : FileSystem} {limits : Limits} {f : Frame} {below frames : List Frame}
    {w w' : World} {depth : Nat} {r : Except Error Unit × World}
    (h : settle limits below (f.act files w) = (.ok .running, running limits frames w'))
    (hr : unwind files depth frames w' = some r) :
    unwind files (depth + 1) (f :: below) w = some r := by
  rw [unwind, f.evaluate_eq]
  cases hact : f.act files w with
  | mk deed w₁ =>
  rw [hact] at h
  cases deed with
  | proceed g =>
    obtain ⟨rfl, rfl⟩ : g :: below = frames ∧ w₁ = w' := by simpa [settle] using h
    exact unwind_succ hr
  | finish =>
    obtain ⟨rfl, rfl⟩ : below = frames ∧ w₁ = w' := by simpa [settle] using h
    exact unwind_succ hr
  | wait g name => simp [settle] at h
  | fail g e => simp [settle] at h
  | call g program function args =>
    rw [Deed.evaluate, callsTo_succ]
    rw [settle] at h
    split at h
    · -- The callee took the place of its caller, which had nothing left to do.
      rename_i htail
      obtain ⟨rfl, rfl⟩ : Frame.start program function args :: below = frames ∧ w₁ = w' := by
        simpa using h
      have hg : g.atTail = true := (Bool.and_eq_true_iff.mp htail).1
      obtain ⟨w₂, hcallee, hbelow⟩ | ⟨e, w₂, hcallee, rfl⟩ := unwind_cons hr
      · simp only [hcallee, Frame.evaluate_of_atTail hg]
        exact unwind_succ hbelow
      · simp only [hcallee]
    · split at h
      · simp at h
      · -- The caller waits below its callee.
        obtain ⟨rfl, rfl⟩ : Frame.start program function args :: g :: below = frames ∧ w₁ = w' := by
          simpa using h
        obtain ⟨w₂, hcallee, hbelow⟩ | ⟨e, w₂, hcallee, rfl⟩ := unwind_cons hr
        · have hcaller := unwind_succ hbelow
          rw [unwind] at hcaller
          simp only [hcallee]
          exact hcaller
        · simp only [hcallee]

theorem unwind_of_failed {files : FileSystem} {limits : Limits} {f : Frame} {below : List Frame}
    {w : World} {m : Machine} {e : Error} (h : settle limits below (f.act files w) = (.error e, m))
    (hdepth : ∀ function limit, e ≠ .callDepthExceeded function limit) (depth : Nat) :
    unwind files depth (f :: below) w = some (.error e, m.world) := by
  rw [unwind, f.evaluate_eq]
  cases hact : f.act files w with
  | mk deed w₁ =>
  rw [hact] at h
  cases deed with
  | fail g e' =>
    obtain ⟨rfl, rfl⟩ : e' = e ∧ running limits (g :: below) w₁ = m := by simpa [settle] using h
    rfl
  | call g program function args =>
    rw [settle] at h
    split at h
    · simp at h
    · split at h
      · obtain ⟨rfl, -⟩ : Error.callDepthExceeded function.name limits.maxCallDepth = e ∧ _ = m := by
          simpa using h
        exact absurd rfl (hdepth _ _)
      · simp at h
  | proceed g | finish | wait g name => simp [settle] at h

theorem unwind_of_run {files : FileSystem} {limits : Limits} {frames : List Frame} {w : World}
    {n : Nat} {result : Except Error Progress} {m : Machine}
    (h : (running limits frames w).runUntilSuspended files n = some (result, m))
    (hwait : ∀ name, result ≠ .ok (.suspended name))
    (hdepth : ∀ function limit, result ≠ .error (.callDepthExceeded function limit)) :
    ∃ depth, unwind files depth frames w = some (result.map fun _ => (), m.world) := by
  induction n generalizing frames w with
  | zero => simp [runUntilSuspended] at h
  | succ n ih =>
    cases frames with
    | nil =>
      obtain ⟨rfl, rfl⟩ : Except.ok Progress.done = result ∧ running limits [] w = m := by
        simpa [runUntilSuspended, step_running_nil] using h
      exact ⟨0, rfl⟩
    | cons f below =>
      have hstep := step_running files limits f below w
      obtain ⟨frames', hgo⟩ | ⟨g, name, -, hpause⟩ | ⟨e, g, hfail⟩ :=
        settle_cases limits below (f.act files w)
      · rw [runUntilSuspended_of_step (hstep.trans hgo)] at h
        obtain ⟨depth, hunwind⟩ := ih h
        exact ⟨depth + 1, unwind_of_settle hgo hunwind⟩
      · rw [runUntilSuspended_of_stop (hstep.trans hpause) (by simp)] at h
        obtain ⟨rfl, -⟩ := Prod.mk.inj (Option.some.inj h)
        exact absurd rfl (hwait name)
      · rw [runUntilSuspended_of_stop (hstep.trans hfail) (by simp)] at h
        obtain ⟨rfl, rfl⟩ := Prod.mk.inj (Option.some.inj h)
        refine ⟨0, unwind_of_failed hfail (fun function limit he => ?_) 0⟩
        exact hdepth function limit (by rw [he])

theorem run_buffered {files : FileSystem} {limits : Limits} {frames : List Frame} {w : World}
    {n : Nat} {out : Outcome} {values : List Value} (hinput : w.input = .buffered values)
    (h : (running limits frames w).runUntilSuspended files n = some out) (name : String) :
    out.1 ≠ .ok (.suspended name) := by
  induction n generalizing frames w values with
  | zero => simp [runUntilSuspended] at h
  | succ n ih =>
    cases frames with
    | nil =>
      rw [runUntilSuspended_of_stop (step_running_nil files limits w) (by simp)] at h
      obtain rfl := Option.some.inj h
      simp
    | cons f below =>
      have hstep := step_running files limits f below w
      obtain ⟨hwait, values', hinput'⟩ := f.act_buffered hinput files
      obtain ⟨frames', hgo⟩ | ⟨g, other, hact, -⟩ | ⟨e, g, hfail⟩ :=
        settle_cases limits below (f.act files w)
      · rw [runUntilSuspended_of_step (hstep.trans hgo)] at h
        exact ih hinput' h
      · exact absurd hact (hwait g other)
      · rw [runUntilSuspended_of_stop (hstep.trans hfail) (by simp)] at h
        obtain rfl := Option.some.inj h
        simp

/-! ## From structured execution to the machine -/

def Reaches (files : FileSystem) (limits : Limits) (frames : List Frame) (w : World)
    (r : Except Error Unit × World) : Prop :=
  ∃ n m, (running limits frames w).runUntilDone files n = some (r.1, m) ∧ m.world = r.2

def Overflows (files : FileSystem) (limits : Limits) (frames : List Frame) (w : World) : Prop :=
  ∃ n m function limit, (running limits frames w).runUntilDone files n =
    some (.error (.callDepthExceeded function limit), m)

theorem runUntilDone_of_step {files : FileSystem} {m m' : Machine} {n : Nat}
    (h : m.step files = (.ok .running, m')) :
    m.runUntilDone files (n + 1) = m'.runUntilDone files n := by
  rw [runUntilDone, runUntilSuspended_of_step h]
  rfl

theorem runUntilDone_of_failed {files : FileSystem} {m m' : Machine} {e : Error}
    (h : m.step files = (.error e, m')) : m.runUntilDone files 1 = some (.error e, m') := by
  rw [runUntilDone, runUntilSuspended_of_stop h (by simp)]
  rfl

/-- The machine ends with the result, unless at its depth limit. -/
def Settles (files : FileSystem) (limits : Limits) (frames : List Frame) (w : World)
    (r : Except Error Unit × World) : Prop :=
  Reaches files limits frames w r ∨ Overflows files limits frames w

theorem settles_of_step {files : FileSystem} {limits : Limits} {frames frames' : List Frame}
    {w w' : World} {r : Except Error Unit × World}
    (hstep : (running limits frames w).step files = (.ok .running, running limits frames' w'))
    (h : Settles files limits frames' w' r) : Settles files limits frames w r := by
  obtain ⟨n, m, hrun, hw⟩ | ⟨n, m, function, limit, hrun⟩ := h
  · exact .inl ⟨n + 1, m, by rw [runUntilDone_of_step hstep, hrun], hw⟩
  · exact .inr ⟨n + 1, m, function, limit, by rw [runUntilDone_of_step hstep, hrun]⟩

theorem settles_nil (files : FileSystem) (limits : Limits) (w : World) :
    Settles files limits [] w (.ok (), w) :=
  .inl ⟨1, running limits [] w, rfl, rfl⟩

/-- What follows a call that came to a result: nothing if it failed, else the calls below. -/
def Follows (files : FileSystem) (limits : Limits) (below : List Frame) :
    Except Error Unit × World → Except Error Unit × World → Prop
  | (.error e, w), final => final = (.error e, w)
  | (.ok _, w), final => Settles files limits below w final

theorem follows_nil (files : FileSystem) (limits : Limits) (r : Except Error Unit × World) :
    Follows files limits [] r r := by
  obtain ⟨result, w⟩ := r
  cases result with
  | error e => rfl
  | ok u => exact settles_nil files limits w

def Follows.Known (files : FileSystem) (limits : Limits) (calls : Calls) : Prop :=
  ∀ program function args w r, calls program function args w = some r →
    ∀ below final, Follows files limits below r final →
      Settles files limits (.start program function args :: below) w final

theorem settles_of_evaluate {files : FileSystem} {limits : Limits} {calls : Calls} {f : Frame}
    {below : List Frame} {w : World} {r final : Except Error Unit × World}
    (hcalls : Follows.Known files limits calls) (h : f.evaluate files calls w = some r)
    (hbelow : Follows files limits below r final) :
    Settles files limits (f :: below) w final := by
  -- On the statements that the call has left: each step that goes on leaves fewer of them.
  induction hn : Statement.countAll f.remaining using Nat.strongRecOn generalizing f w with
  | ind n ih =>
  subst hn
  have hstep := step_running files limits f below w
  rw [f.evaluate_eq] at h
  cases hact : f.act files w with
  | mk deed w₁ =>
  rw [hact] at h hstep
  cases deed with
  | proceed g =>
    have hg := ih _ (Frame.count_lt_of_proceed hact) h rfl
    exact settles_of_step hstep hg
  | finish =>
    obtain rfl : (Except.ok (), w₁) = r := Option.some.inj h
    exact settles_of_step hstep hbelow
  | wait g name => simp [Deed.evaluate] at h
  | fail g e =>
    obtain rfl : (Except.error e, w₁) = r := Option.some.inj h
    obtain rfl : final = (.error e, w₁) := hbelow
    exact .inl ⟨1, _, runUntilDone_of_failed hstep, rfl⟩
  | call g program function args =>
    rw [Deed.evaluate] at h
    cases hcall : calls program function args w₁ with
    | none => simp [hcall] at h
    | some ended =>
      have hcallee := hcalls program function args w₁ ended hcall
      rw [settle] at hstep
      split at hstep
      · -- The caller has nothing left: its callee is followed by the calls below.
        rename_i htail
        have hg : g.atTail = true := (Bool.and_eq_true_iff.mp htail).1
        obtain ⟨result, w₂⟩ := ended
        refine settles_of_step hstep (hcallee below final ?_)
        cases result with
        | error e =>
          obtain rfl : (Except.error e, w₂) = r := by simpa [hcall] using h
          exact hbelow
        | ok u =>
          obtain rfl : (Except.ok (), w₂) = r := by simpa [hcall, g.evaluate_of_atTail hg] using h
          exact hbelow
      · split at hstep
        · exact .inr ⟨1, _, _, _, runUntilDone_of_failed hstep⟩
        · -- The caller goes on after its callee.
          obtain ⟨result, w₂⟩ := ended
          refine settles_of_step hstep (hcallee (g :: below) final ?_)
          cases result with
          | error e =>
            obtain rfl : (Except.error e, w₂) = r := by simpa [hcall] using h
            exact hbelow
          | ok u =>
            simp only [hcall] at h
            exact ih _ (Frame.count_lt_of_call hact) h rfl

theorem known_callsTo (files : FileSystem) (limits : Limits) (depth : Nat) :
    Follows.Known files limits (callsTo files depth) := by
  induction depth with
  | zero =>
    intro program function args w r h
    simp [callsTo] at h
  | succ depth ih =>
    intro program function args w r h below final hbelow
    rw [callsTo_succ] at h
    exact settles_of_evaluate ih h hbelow

end Machine

/-! ## Whole runs -/

open Machine

theorem runUntilDone_eq_of_buffered {files : FileSystem} {limits : Limits} {frames : List Frame}
    {w : World} {n : Nat} {result : Except Error Unit} {m : Machine} {values : List Value}
    (hinput : w.input = .buffered values)
    (h : (running limits frames w).runUntilDone files n = some (result, m)) :
    ∃ progress, (running limits frames w).runUntilSuspended files n = some (progress, m) ∧
      (progress.map fun _ => ()) = result ∧ ∀ name, progress ≠ .ok (.suspended name) := by
  obtain ⟨⟨progress, m'⟩, hrun, hout⟩ := Option.map_eq_some_iff.mp h
  have hwait := run_buffered hinput hrun
  cases progress with
  | error e =>
    obtain ⟨rfl, rfl⟩ := Prod.mk.inj hout
    exact ⟨.error e, hrun, rfl, hwait⟩
  | ok p =>
    cases p with
    | running =>
      obtain ⟨rfl, rfl⟩ := Prod.mk.inj hout
      exact ⟨_, hrun, rfl, hwait⟩
    | done =>
      obtain ⟨rfl, rfl⟩ := Prod.mk.inj hout
      exact ⟨_, hrun, rfl, hwait⟩
    | suspended name => exact absurd rfl (hwait name)

def World.reports (w : World) (result : Except Error Unit) : Report :=
  ⟨result, w, w.printed.toList.map .printed⟩

theorem Program.ends_buffered_iff {p : Program} {o : RunOptions} {f : Function}
    (hf : p.find? o.entry = some f) (files : FileSystem) (inputs : List Value) (r : Report) :
    p.Ends files o (.buffered inputs) r ↔
      ∃ n m, (p.initial f o (.buffered inputs)).runUntilDone files n = some (r.result, m) ∧
        r = m.world.reports r.result := by
  constructor
  · rintro ⟨n, hn⟩
    rw [report_buffered hf] at hn
    obtain ⟨session, hsession, rfl⟩ := Option.map_eq_some_iff.mp hn
    obtain ⟨⟨result, m⟩, hrun, rfl⟩ := Option.map_eq_some_iff.mp hsession
    exact ⟨n, m, hrun, rfl⟩
  · rintro ⟨n, m, hrun, hr⟩
    refine ⟨n, ?_⟩
    rw [report_buffered hf, runAlone, hrun, hr]
    rfl

/-- A run that stays within its depth limit ends exactly as structured execution says: with the same
error, if any, the same printed values in the same order, the same unread input and the same loaded
programs. It runs for ever exactly if structured execution comes to nothing at any depth. -/
theorem Program.ends_iff_evaluate (p : Program) (files : FileSystem) (o : RunOptions)
    (inputs : List Value)
    (hdepth : ∀ r, p.Ends files o (.buffered inputs) r → ¬ r.DepthExceeded) (r : Report) :
    p.Ends files o (.buffered inputs) r ↔
      ∃ depth, p.evaluate files depth o inputs = some (r.result, r.world) ∧
        r = r.world.reports r.result := by
  cases hf : p.find? o.entry with
  | none =>
    simp only [Ends, report_of_missing hf, evaluate, hf]
    constructor
    · rintro ⟨-, hr⟩
      obtain rfl := Option.some.inj hr
      exact ⟨0, rfl, rfl⟩
    · rintro ⟨depth, hevaluate, hr⟩
      obtain ⟨hresult, hworld⟩ := Prod.mk.inj (Option.some.inj hevaluate)
      refine ⟨0, ?_⟩
      rw [hr, ← hresult, ← hworld]
      rfl
  | some f =>
    have hevaluate : ∀ depth, p.evaluate files depth o inputs =
        callsTo files depth p f o.args (o.world (.buffered inputs)) := by
      intro depth
      simp only [evaluate, hf]
      rfl
    have hinput : (o.world (.buffered inputs)).input = .buffered inputs := rfl
    constructor
    · intro hends
      obtain ⟨n, m, hrun, hr⟩ := (ends_buffered_iff hf files inputs r).mp hends
      obtain ⟨progress, hprogress, hresult, hwait⟩ := runUntilDone_eq_of_buffered hinput hrun
      have hlimit : ∀ function limit, progress ≠ .error (.callDepthExceeded function limit) := by
        rintro function limit rfl
        exact hdepth r hends ⟨function, limit, hresult.symm⟩
      obtain ⟨depth, hunwind⟩ := unwind_of_run hprogress hwait hlimit
      refine ⟨depth + 1, ?_, by rw [hr]; rfl⟩
      rw [hevaluate, callsTo_succ, ← unwind_single, hunwind, hresult, hr]
      rfl
    · rintro ⟨depth, hcalls, hr⟩
      rw [hevaluate] at hcalls
      have hends := ends_buffered_iff hf files inputs
      obtain ⟨n, m, hrun, hworld⟩ | ⟨n, m, function, limit, hrun⟩ :=
        known_callsTo files o.limits depth p f o.args _ _ hcalls [] _ (follows_nil files o.limits _)
      · exact (hends r).mpr ⟨n, m, hrun, by rw [hworld]; exact hr⟩
      · -- The run would end at its limit, which it does not.
        have hover := (hends (m.world.reports (.error (.callDepthExceeded function limit)))).mpr
          ⟨n, m, hrun, rfl⟩
        exact absurd ⟨function, limit, rfl⟩ (hdepth _ hover)

def Program.relaying : Program where
  baseDir := ""
  functions :=
    [⟨"main", [], [.ask "x", .guard (.var "x") [.call "echo" none [.var "x"], .print (.str "after"),
      .leave], .print (.str "never")]⟩,
     ⟨"echo", ["text", "rest"], [.guard (.var "text") [.print (.var "text"), .leave],
      .print (.var "rest")]⟩]

theorem Program.ends_iff_evaluate_relaying :
    (∀ r, relaying.Ends .empty {} (.buffered [.str "hi", .null]) r → ¬ r.DepthExceeded) ∧
      ∃ depth, relaying.evaluate .empty depth {} [.str "hi", .null] =
        some (.ok (), ⟨#[.str "hi", .str "after"], .buffered [.null], .empty⟩) := by
  have hends : relaying.Ends .empty {} (.buffered [.str "hi", .null])
      (World.reports ⟨#[.str "hi", .str "after"], .buffered [.null], .empty⟩ (.ok ())) := ⟨20, rfl⟩
  have hdepth : ∀ r, relaying.Ends .empty {} (.buffered [.str "hi", .null]) r →
      ¬ r.DepthExceeded := by
    intro r hr ⟨function, limit, hlimit⟩
    rw [← hends.unique hr] at hlimit
    simp [World.reports] at hlimit
  obtain ⟨depth, hdepth', -⟩ := (ends_iff_evaluate relaying .empty {} _ hdepth _).mp hends
  exact ⟨hdepth, depth, hdepth'⟩

end Runbook

import Runbook.Proofs.Machine.Runs

/-!
# Calls in the place of their callers

Calls at the end of their caller may take its place: a run that does so shows the same as one that
keeps every caller. The stack of the first is the stack of the second without some of the calls
that are at their end; such a call, once it is innermost again, only ends.
-/

namespace Runbook

/-- `pruned` is the stack `full` without some of the calls that are at their end. -/
inductive Pruned : List Frame → List Frame → Prop where
  | nil : Pruned [] []
  | keep {full pruned : List Frame} (f : Frame) (h : Pruned full pruned) :
    Pruned (f :: full) (f :: pruned)
  | drop {full pruned : List Frame} {f : Frame} (hf : f.atTail = true) (h : Pruned full pruned) :
    Pruned (f :: full) pruned

theorem Pruned.length_le {full pruned : List Frame} (h : Pruned full pruned) :
    pruned.length ≤ full.length := by
  induction h with
  | nil => exact Nat.le_refl 0
  | keep f _ ih => simpa using ih
  | drop _ _ ih => exact Nat.le_succ_of_le ih

namespace Machine

/-- Two machines have stopped alike: both have ended with the same result in the same world, or both
wait in the same innermost call. -/
inductive StoppedAlike (off on : Limits) : Outcome → Outcome → Prop where
  | ended {result : Except Error Progress} {full pruned : List Frame} {w : World}
    (hwait : ∀ name, result ≠ .ok (.suspended name)) :
    StoppedAlike off on (result, running off full w) (result, running on pruned w)
  | waiting {f : Frame} {full pruned : List Frame} {w : World} {name : String}
    (h : Pruned full pruned) :
    StoppedAlike off on (.ok (.suspended name), paused off (f :: full) w name)
      (.ok (.suspended name), paused on (f :: pruned) w name)

def WithinDepth (result : Except Error Progress) : Prop :=
  ∀ function limit, result ≠ .error (.callDepthExceeded function limit)

variable {files : FileSystem} {off on : Limits}

theorem step_finish {limits : Limits} {f : Frame} {below : List Frame} {w : World}
    (h : f.atTail = true) :
    (running limits (f :: below) w).step files = (.ok .running, running limits below w) := by
  rw [step_running, Frame.act_of_atTail h]
  rfl

inductive SettledAlike (off on : Limits) (full pruned : List Frame) (done : Deed × World) : Prop where
  | go {full' pruned' : List Frame} {w : World} (hlength : full'.length ≤ full.length + 2)
    (hoff : settle off full done = (.ok .running, running off full' w))
    (hon : settle on pruned done = (.ok .running, running on pruned' w))
    (h : Pruned full' pruned')
  | stop {out out' : Outcome} (hoff : settle off full done = out)
    (hon : settle on pruned done = out') (hstop : out.1 ≠ .ok .running) (hsame : out.1 = out'.1)
    (hlength : out.2.frames.length = full.length + 1) (h : StoppedAlike off on out out')
  | fullTooDeep (hfull : off.maxCallDepth ≤ full.length + 1)
    (hfail : ¬ WithinDepth (settle off full done).1)
    (hstop : (settle off full done).1 ≠ .ok .running)
  | prunedTooDeep (hfull : full.length + 1 < off.maxCallDepth)
    (hpruned : on.maxCallDepth ≤ pruned.length + 1)
    (hfail : ¬ WithinDepth (settle on pruned done).1)
    (hstop : (settle on pruned done).1 ≠ .ok .running)

theorem settledAlike (hoff : off.tailCalls = false) (hon : on.tailCalls = true)
    {full pruned : List Frame} (hpruned : Pruned full pruned) (done : Deed × World) :
    SettledAlike off on full pruned done := by
  obtain ⟨deed, w⟩ := done
  cases deed with
  | proceed f => exact .go (by simp) rfl rfl (.keep f hpruned)
  | finish => exact .go (by simp) rfl rfl hpruned
  | wait f name => exact .stop rfl rfl (by simp [settle]) rfl rfl (.waiting hpruned)
  | fail f e => exact .stop rfl rfl (by simp [settle]) rfl rfl (.ended (by simp))
  | call f program function args =>
    have hfull : settle off full (.call f program function args, w) =
        if off.maxCallDepth ≤ full.length + 1 then
          (.error (.callDepthExceeded function.name off.maxCallDepth), running off (f :: full) w)
        else (.ok .running, running off (.start program function args :: f :: full) w) := by
      simp [settle, hoff]
    by_cases hdeep : off.maxCallDepth ≤ full.length + 1
    · rw [if_pos hdeep] at hfull
      exact .fullTooDeep hdeep (by simp [hfull, WithinDepth]) (by simp [hfull])
    · rw [if_neg hdeep] at hfull
      by_cases htail : f.atTail = true
      · -- The callee takes the place of its caller in one stack and stands above it in the other.
        refine .go (by simp) hfull ?_ (.keep _ (.drop htail hpruned))
        simp [settle, htail, hon]
      · have hshort : settle on pruned (.call f program function args, w) =
            if on.maxCallDepth ≤ pruned.length + 1 then
              (.error (.callDepthExceeded function.name on.maxCallDepth), running on (f :: pruned) w)
            else (.ok .running, running on (.start program function args :: f :: pruned) w) := by
          simp [settle, htail]
        by_cases hdeep' : on.maxCallDepth ≤ pruned.length + 1
        · rw [if_pos hdeep'] at hshort
          exact .prunedTooDeep (by omega) hdeep' (by simp [hshort, WithinDepth]) (by simp [hshort])
        · rw [if_neg hdeep'] at hshort
          exact .go (by simp) hfull hshort (.keep _ (.keep f hpruned))

theorem run_pruned (hoff : off.tailCalls = false) (hon : on.tailCalls = true)
    (hle : off.maxCallDepth ≤ on.maxCallDepth) {full pruned : List Frame}
    (hpruned : Pruned full pruned) {w : World} {n : Nat} {out : Outcome}
    (h : (running off full w).runUntilSuspended files n = some out) (hdepth : WithinDepth out.1) :
    ∃ out', (running on pruned w).runUntilSuspended files n = some out' ∧
      StoppedAlike off on out out' := by
  induction n generalizing full pruned w with
  | zero => simp [runUntilSuspended] at h
  | succ n ih =>
    cases hpruned with
    | nil =>
      rw [runUntilSuspended_of_stop (step_running_nil files off w) (by simp)] at h
      obtain rfl := Option.some.inj h
      refine ⟨_, runUntilSuspended_of_stop (step_running_nil files on w) (by simp), ?_⟩
      exact .ended (by simp)
    | drop hf hpruned =>
      rw [runUntilSuspended_of_step (step_finish hf)] at h
      obtain ⟨out', hout', halike⟩ := ih hpruned h
      exact ⟨out', runUntilSuspended_mono hout' (Nat.le_succ n), halike⟩
    | @keep full pruned f hpruned =>
      have hfull := step_running files off f full w
      have hshort := step_running files on f pruned w
      cases settledAlike hoff hon hpruned (f.act files w) with
      | go _ hgo hgo' hpruned' =>
        rw [runUntilSuspended_of_step (hfull.trans hgo)] at h
        obtain ⟨out', hout', halike⟩ := ih hpruned' h
        exact ⟨out', (runUntilSuspended_of_step (hshort.trans hgo')).trans hout', halike⟩
      | stop hstop hstop' hne hsame _ halike =>
        rw [runUntilSuspended_of_stop (hfull.trans hstop) hne] at h
        obtain rfl := Option.some.inj h
        exact ⟨_, runUntilSuspended_of_stop (hshort.trans hstop') (hsame ▸ hne), halike⟩
      | fullTooDeep _ hfail hne =>
        rw [runUntilSuspended_of_stop hfull hne] at h
        obtain rfl := Option.some.inj h
        exact absurd hdepth hfail
      | prunedTooDeep hroom hdeep =>
        have := hpruned.length_le
        omega

theorem run_full (hoff : off.tailCalls = false) (hon : on.tailCalls = true)
    {full pruned : List Frame} (hpruned : Pruned full pruned) {w : World} {n : Nat} {out : Outcome}
    (hroom : full.length + n ≤ off.maxCallDepth)
    (h : (running on pruned w).runUntilSuspended files n = some out) (hdepth : WithinDepth out.1) :
    ∃ n' out', (running off full w).runUntilSuspended files n' = some out' ∧
      StoppedAlike off on out' out ∧ out'.2.frames.length ≤ full.length + n := by
  induction n generalizing full pruned w with
  | zero => simp [runUntilSuspended] at h
  | succ n ih =>
    induction hpruned with
    | nil =>
      rw [runUntilSuspended_of_stop (step_running_nil files on w) (by simp)] at h
      obtain rfl := Option.some.inj h
      refine ⟨1, _, runUntilSuspended_of_stop (step_running_nil files off w) (by simp), ?_, ?_⟩
      · exact .ended (by simp)
      · simp [running]
    | @drop full pruned f hf hpruned ihdrop =>
      have hlength : (f :: full).length = full.length + 1 := rfl
      obtain ⟨n', out', hout', halike, hheight⟩ := ihdrop (by omega) h
      refine ⟨n' + 1, out', ?_, halike, by omega⟩
      rw [runUntilSuspended_of_step (step_finish hf), hout']
    | @keep full pruned f hpruned =>
      have hlength : (f :: full).length = full.length + 1 := rfl
      have hfull := step_running files off f full w
      have hshort := step_running files on f pruned w
      cases settledAlike hoff hon hpruned (f.act files w) with
      | go hgrow hgo hgo' hpruned' =>
        rw [runUntilSuspended_of_step (hshort.trans hgo')] at h
        obtain ⟨n', out', hout', halike, hheight⟩ := ih hpruned' (by omega) h
        refine ⟨n' + 1, out', ?_, halike, by omega⟩
        rw [runUntilSuspended_of_step (hfull.trans hgo), hout']
      | stop hstop hstop' hne hsame hheight halike =>
        rw [runUntilSuspended_of_stop (hshort.trans hstop') (hsame ▸ hne)] at h
        obtain rfl := Option.some.inj h
        exact ⟨1, _, runUntilSuspended_of_stop (hfull.trans hstop) hne, halike, by omega⟩
      | fullTooDeep hdeep => omega
      | prunedTooDeep _ _ hfail hne =>
        rw [runUntilSuspended_of_stop hshort hne] at h
        obtain rfl := Option.some.inj h
        exact absurd hdepth hfail

/-! ## Whole runs -/

theorem StoppedAlike.result_eq {out out' : Outcome} (h : StoppedAlike off on out out') :
    out.1 = out'.1 := by
  cases h <;> rfl

theorem StoppedAlike.world_eq {out out' : Outcome} (h : StoppedAlike off on out out') :
    out.2.world = out'.2.world := by
  cases h <;> rfl

theorem StoppedAlike.reportOf_eq {out out' : Outcome} (h : StoppedAlike off on out out')
    (before : Nat) : reportOf before out = reportOf before out' := by
  rw [reportOf, reportOf, h.result_eq, h.world_eq, printedSince_eq h.world_eq]

theorem withinDepth_of_report {out : Outcome} {before : Nat}
    (h : ¬ (reportOf before out).DepthExceeded) : WithinDepth out.1 := by
  intro function limit hout
  exact h ⟨function, limit, by rw [reportOf, hout]; rfl⟩

theorem withinDepth_of_waiting {result : Except Error Progress}
    (h : ¬ ∀ name, result ≠ .ok (.suspended name)) : WithinDepth result := by
  intro function limit hresult
  exact h (by simp [hresult])

theorem answering_pruned (hoff : off.tailCalls = false) (hon : on.tailCalls = true)
    (hle : off.maxCallDepth ≤ on.maxCallDepth) {full pruned : List Frame}
    (hpruned : Pruned full pruned) {w : World} {n : Nat} {answers : List Value} {r : Report}
    (h : ((running off full w).runAnswering files n answers).map Session.report = some r)
    (hdepth : ¬ r.DepthExceeded) :
    ((running on pruned w).runAnswering files n answers).map Session.report = some r := by
  induction n generalizing full pruned w answers r with
  | zero => simp [runAnswering] at h
  | succ n ih =>
    cases hrun : (running off full w).runUntilSuspended files n with
    | none => simp [runAnswering, hrun] at h
    | some out =>
      by_cases hwait : ∀ name, out.1 ≠ .ok (.suspended name)
      · rw [runAnswering_of_ended hrun hwait] at h
        obtain rfl := Option.some.inj h
        obtain ⟨out', hout', halike⟩ :=
          run_pruned hoff hon hle hpruned hrun (withinDepth_of_report hdepth)
        rw [runAnswering_of_ended hout' (by rwa [← halike.result_eq]), ← halike.reportOf_eq]
        rfl
      · obtain ⟨out', hout', halike⟩ :=
          run_pruned hoff hon hle hpruned hrun (withinDepth_of_waiting hwait)
        cases halike with
        | ended hended => exact absurd hended hwait
        | waiting hbelow =>
          -- Both wait in the same call, so both go on with the same value in it.
          rw [runAnswering_of_paused hrun] at h
          obtain ⟨rest, hrest, rfl⟩ := Option.map_eq_some_iff.mp h
          rw [runAnswering_of_paused hout', ih (.keep _ hbelow) hrest hdepth]
          rfl

theorem answering_full (hoff : off.tailCalls = false) (hon : on.tailCalls = true)
    {full pruned : List Frame} (hpruned : Pruned full pruned) {w : World} {n : Nat}
    {answers : List Value} {r : Report} (hroom : full.length + n * n ≤ off.maxCallDepth)
    (h : ((running on pruned w).runAnswering files n answers).map Session.report = some r)
    (hdepth : ¬ r.DepthExceeded) :
    ∃ n', ((running off full w).runAnswering files n' answers).map Session.report = some r := by
  induction n generalizing full pruned w answers r with
  | zero => simp [runAnswering] at h
  | succ n ih =>
    have hsquare : (n + 1) * (n + 1) = n * n + 2 * n + 1 := by grind
    cases hrun : (running on pruned w).runUntilSuspended files n with
    | none => simp [runAnswering, hrun] at h
    | some out =>
      by_cases hwait : ∀ name, out.1 ≠ .ok (.suspended name)
      · rw [runAnswering_of_ended hrun hwait] at h
        obtain rfl := Option.some.inj h
        obtain ⟨n', out', hout', halike, -⟩ :=
          run_full hoff hon hpruned (by omega) hrun (withinDepth_of_report hdepth)
        refine ⟨n' + 1, ?_⟩
        rw [runAnswering_of_ended hout' (by rwa [halike.result_eq]), halike.reportOf_eq]
        rfl
      · obtain ⟨n', out', hout', halike, hheight⟩ :=
          run_full hoff hon hpruned (by omega) hrun (withinDepth_of_waiting hwait)
        cases halike with
        | ended hended => exact absurd hended hwait
        | waiting hbelow =>
          rw [runAnswering_of_paused hrun] at h
          obtain ⟨rest, hrest, rfl⟩ := Option.map_eq_some_iff.mp h
          obtain ⟨k, hk⟩ := ih (.keep _ hbelow) (by simp [paused, running] at hheight ⊢; omega)
            hrest hdepth
          obtain ⟨session, hsession, rfl⟩ := Option.map_eq_some_iff.mp hk
          refine ⟨max n' k + 1, ?_⟩
          rw [runAnswering_of_paused (runUntilSuspended_mono hout' (Nat.le_max_left n' k)),
            runAnswering_mono hsession (Nat.le_max_right n' k)]
          rfl

end Machine

namespace Program

open Machine

variable {p : Program} {files : FileSystem} {o : RunOptions} {d : Discipline} {r : Report}

theorem ends_pruned {on : Limits} (hoff : o.limits.tailCalls = false) (hon : on.tailCalls = true)
    (hle : o.limits.maxCallDepth ≤ on.maxCallDepth) (h : p.Ends files o d r)
    (hdepth : ¬ r.DepthExceeded) : p.Ends files { o with limits := on } d r := by
  obtain ⟨n, hn⟩ := h
  refine ⟨n, ?_⟩
  cases hf : p.find? o.entry with
  | none =>
    have hf' : p.find? { o with limits := on }.entry = none := hf
    rw [report_of_missing hf] at hn
    rw [report_of_missing hf', ← hn]
    rfl
  | some f =>
    have hf' : p.find? { o with limits := on }.entry = some f := hf
    have hstack : Pruned [.start p f o.args] [.start p f o.args] := .keep _ .nil
    cases d with
    | buffered inputs =>
      rw [report_buffered hf, runAlone_report] at hn
      obtain ⟨out, hout, rfl⟩ := Option.map_eq_some_iff.mp hn
      obtain ⟨out', hout', halike⟩ :=
        run_pruned hoff hon hle hstack hout (withinDepth_of_report hdepth)
      rw [report_buffered hf', runAlone_report, halike.reportOf_eq]
      exact congrArg (Option.map _) hout'
    | answering answers =>
      rw [report_answering hf] at hn
      rw [report_answering hf']
      exact answering_pruned hoff hon hle hstack hn hdepth

theorem ends_full {off : Limits} {n : Nat} (hoff : off.tailCalls = false)
    (hon : o.limits.tailCalls = true) (hroom : 1 + n * n ≤ off.maxCallDepth)
    (h : p.report files n o d = some r) (hdepth : ¬ r.DepthExceeded) :
    p.Ends files { o with limits := off } d r := by
  cases hf : p.find? o.entry with
  | none =>
    have hf' : p.find? { o with limits := off }.entry = none := hf
    rw [report_of_missing hf] at h
    refine ⟨n, ?_⟩
    rw [report_of_missing hf', ← h]
    rfl
  | some f =>
    have hf' : p.find? { o with limits := off }.entry = some f := hf
    have hstack : Pruned [.start p f o.args] [.start p f o.args] := .keep _ .nil
    cases d with
    | buffered inputs =>
      rw [report_buffered hf, runAlone_report] at h
      obtain ⟨out, hout, rfl⟩ := Option.map_eq_some_iff.mp h
      have hn : n ≤ n * n := Nat.le_mul_self n
      obtain ⟨n', out', hout', halike, -⟩ :=
        run_full hoff hon hstack (by simp; omega) hout (withinDepth_of_report hdepth)
      refine ⟨n', ?_⟩
      rw [report_buffered hf', runAlone_report, ← halike.reportOf_eq]
      exact congrArg (Option.map _) hout'
    | answering answers =>
      rw [report_answering hf] at h
      obtain ⟨n', hn'⟩ := answering_full hoff hon hstack (by simpa using hroom) h hdepth
      exact ⟨n', by rw [report_answering hf']; exact hn'⟩

/-- Replacing callers at their end changes nothing that a run shows. If the run that keeps every
caller ends, other than at its depth limit, then the run that replaces callers ends with the same
report under the same limit: result, printed values, events, unread input and loaded programs. And
if the run that replaces callers ends, other than at its limit, then some limit lets the run that
keeps them end with the same report. -/
theorem ends_iff_tailCalls (p : Program) (files : FileSystem) (o : RunOptions) (d : Discipline) :
    (∀ limit r, p.Ends files { o with limits := ⟨limit, false⟩ } d r → ¬ r.DepthExceeded →
      p.Ends files { o with limits := ⟨limit, true⟩ } d r) ∧
    ∀ limit r, p.Ends files { o with limits := ⟨limit, true⟩ } d r → ¬ r.DepthExceeded →
      ∃ limit', p.Ends files { o with limits := ⟨limit', false⟩ } d r := by
  refine ⟨?_, ?_⟩
  · intro limit r h hdepth
    exact ends_pruned (o := { o with limits := ⟨limit, false⟩ }) rfl rfl (Nat.le_refl limit) h hdepth
  · rintro limit r ⟨n, hn⟩ hdepth
    exact ⟨1 + n * n, ends_full (o := { o with limits := ⟨limit, true⟩ }) rfl rfl (Nat.le_refl _) hn
      hdepth⟩

def handingOver : Program where
  baseDir := ""
  functions :=
    [⟨"main", ["go"], [.guard (.var "go") [.call "echo" none [.str "hi"], .leave],
      .print (.str "never")]⟩,
     ⟨"echo", ["text"], [.print (.var "text")]⟩]

theorem ends_iff_tailCalls_handingOver :
    let o : RunOptions := { args := [.bool true] }
    let r : Report := ⟨.ok (), ⟨#[.str "hi"], .buffered [], .empty⟩, [.printed (.str "hi")]⟩
    (handingOver.Ends .empty { o with limits := ⟨2, false⟩ } (.buffered []) r ∧ ¬ r.DepthExceeded ∧
      handingOver.Ends .empty { o with limits := ⟨2, true⟩ } (.buffered []) r) ∧
    handingOver.Ends .empty { o with limits := ⟨1, true⟩ } (.buffered []) r ∧
      ∃ limit', handingOver.Ends .empty { o with limits := ⟨limit', false⟩ } (.buffered []) r := by
  intro o r
  have hdepth : ¬ r.DepthExceeded := by
    rintro ⟨function, limit, h⟩
    simp [r] at h
  have hkeep : handingOver.Ends .empty { o with limits := ⟨2, false⟩ } (.buffered []) r := ⟨9, rfl⟩
  have hreplace : handingOver.Ends .empty { o with limits := ⟨1, true⟩ } (.buffered []) r := ⟨9, rfl⟩
  have hboth := ends_iff_tailCalls handingOver .empty o (.buffered [])
  exact ⟨⟨hkeep, hdepth, hboth.1 2 r hkeep hdepth⟩, hreplace, hboth.2 1 r hreplace hdepth⟩

end Program

end Runbook

import Runbook.Proofs.Machine.Failure
import Runbook.Proofs.Machine.TailCalls

/-!
# The depth limit bounds the stack and does nothing else

With a lower limit a machine takes the same steps as with a higher one, until a call that stays
above its caller finds no room.
-/

namespace Runbook

structure Limits.Tightens (small large : Limits) : Prop where
  depth : small.maxCallDepth ≤ large.maxCallDepth
  tailCalls : small.tailCalls = large.tailCalls

def Reply.DepthExceeded (reply : Reply) : Prop :=
  ∃ name limit, reply = .stepped (.error (.callDepthExceeded name limit))

/-! ## Where the limit is met -/

namespace Machine

/-- The next step calls a function that comes to stand above its caller: the arguments have values,
the function is found, and the call is not one that takes the place of its caller. -/
def Nests (m : Machine) (files : FileSystem) (name : String) : Prop :=
  ∃ f below function file args cursor values program callee,
    m.waiting = none ∧ m.frames = f :: below ∧
    Cursor.next? f.function.body f.cursor = some (.call function file args, cursor) ∧
    args.mapM f.eval = .ok values ∧
    (m.library.resolve files f.program function file).1 = .ok (program, callee) ∧
    callee.name = name ∧
    ¬ (Cursor.atTail f.function.body cursor = true ∧ m.limits.tailCalls = true)

theorem settle_depth_iff {limits : Limits} {below : List Frame} {done : Deed × World} {name : String}
    {limit : Nat} :
    (settle limits below done).1 = .error (.callDepthExceeded name limit) ↔
      (∃ f, done.1 = .fail f (.callDepthExceeded name limit)) ∨
        ∃ f program callee values, done.1 = .call f program callee values ∧
          ¬ (f.atTail = true ∧ limits.tailCalls = true) ∧
          limits.maxCallDepth ≤ below.length + 1 ∧ callee.name = name ∧
          limits.maxCallDepth = limit := by
  obtain ⟨deed, w⟩ := done
  cases deed with
  | proceed f | finish | wait f other => simp [settle]
  | fail f e => simp [settle]
  | call f program callee values =>
    simp only [settle, Bool.and_eq_true]
    split
    · rename_i htail
      simp only [reduceCtorEq, exists_false, false_or, false_iff]
      rintro ⟨f', program', callee', values', hcall, hnested, -⟩
      obtain ⟨rfl, -⟩ := Deed.call.inj hcall
      exact hnested htail
    · rename_i htail
      split
      · rename_i hfull
        simp only [Except.error.injEq, Error.callDepthExceeded.injEq, reduceCtorEq, exists_false,
          false_or]
        constructor
        · rintro ⟨hname, hlimit⟩
          exact ⟨f, program, callee, values, rfl, htail, hfull, hname, hlimit⟩
        · rintro ⟨f', program', callee', values', hcall, -, -, hname, hlimit⟩
          obtain ⟨-, -, rfl, -⟩ := Deed.call.inj hcall
          exact ⟨hname, hlimit⟩
      · rename_i hroom
        simp [hroom]

theorem step_depth_iff {m : Machine} {files : FileSystem} {name : String} {limit : Nat} :
    (m.step files).1 = .error (.callDepthExceeded name limit) ↔
      limit = m.limits.maxCallDepth ∧ m.Nests files name ∧
        m.limits.maxCallDepth ≤ m.frames.length := by
  rcases m.step_cases files with ⟨other, hwaiting, hstep⟩ | ⟨-, hframes, hstep⟩ |
    ⟨f, below, hm, hstep⟩
  · simp [hstep, Nests, hwaiting]
  · simp [hstep, Nests, hframes]
  · have hwaiting : m.waiting = none := by rw [hm]; rfl
    have hframes : m.frames = f :: below := by rw [hm]; rfl
    rw [hstep, settle_depth_iff, hframes]
    constructor
    · rintro (⟨g, hfail⟩ | ⟨g, program, callee, values, hcall, htail, hfull, hname, hlimit⟩)
      · -- the innermost call itself never fails for the limit
        rcases Frame.act_fail hfail with ⟨cause, hcause⟩ | hlookup
        · simp at hcause
        · cases hlookup
      · obtain ⟨function, file, args, hnext, hg, hvalues, hresolve⟩ := Frame.act_call_iff.mp hcall
        rw [hg] at htail
        exact ⟨hlimit.symm, ⟨f, below, function, file, args, g.cursor, values, program, callee,
          hwaiting, hframes, hnext, hvalues, hresolve, hname, htail⟩, hfull⟩
    · rintro ⟨hlimit, ⟨f', below', function, file, args, cursor, values, program, callee, -, hframes',
        hnext, hvalues, hresolve, hname, htail⟩, hfull⟩
      obtain ⟨rfl, rfl⟩ : f' = f ∧ below' = below := by simpa [hframes] using hframes'.symm
      exact .inr ⟨{ f' with cursor := cursor }, program, callee, values,
        Frame.act_call_iff.mpr ⟨function, file, args, hnext, rfl, hvalues, hresolve⟩, htail, hfull,
        hname, hlimit.symm⟩

/-! ## The stack -/

theorem length_settle {limits : Limits} {f : Frame} {below : List Frame}
    (h : (f :: below).length ≤ max 1 limits.maxCallDepth) (done : Deed × World) :
    (settle limits below done).2.frames.length ≤ max 1 limits.maxCallDepth := by
  obtain ⟨deed, w⟩ := done
  rw [List.length_cons] at h
  cases deed with
  | proceed g | wait g name | fail g e => exact h
  | finish =>
    change below.length ≤ _
    omega
  | call g program callee values =>
    simp only [settle]
    split
    · exact h
    · split
      · exact h
      · change below.length + 2 ≤ _
        omega

theorem length_moves {p : Program} {o : RunOptions} {input : Input} {m : Machine}
    (h : p.machine o input = .ok m) (schedule : List Move) :
    (m.moves schedule).2.frames.length ≤ max 1 o.limits.maxCallDepth := by
  obtain ⟨entry, -, rfl⟩ := running_of_machine h
  let Inv (m : Machine) : Prop :=
    m.limits = o.limits ∧ m.frames.length ≤ max 1 o.limits.maxCallDepth
  have hstart : Inv (running o.limits [.start p entry o.args] ⟨#[], input, o.library⟩) :=
    ⟨rfl, Nat.le_max_left ..⟩
  have hmet : ∀ files, Move.step files ∈ schedule → True := fun _ _ => trivial
  have hinv : Inv ((running o.limits [.start p entry o.args] ⟨#[], input, o.library⟩).moves
      schedule).2 := by
    refine moves_invariant ?_ ?_ hstart hmet
    · rintro files limits f below w - ⟨hlimits, hlength⟩
      obtain rfl : limits = o.limits := hlimits
      exact ⟨settle_limits .., length_settle hlength _⟩
    · rintro limits f below w name v ⟨hlimits, hlength⟩
      exact ⟨hlimits, hlength⟩
  exact hinv.2

/-! ## One machine with two limits -/

def withLimits (m : Machine) (limits : Limits) : Machine := { m with limits := limits }

section

variable {small : Limits} {files : FileSystem}

theorem settle_withLimits {large : Limits} (ht : small.Tightens large) {below : List Frame}
    {done : Deed × World} (h : WithinDepth (settle small below done).1) :
    settle small below done =
      ((settle large below done).1, (settle large below done).2.withLimits small) := by
  obtain ⟨deed, w⟩ := done
  cases deed with
  | proceed f | finish | wait f name | fail f e => rfl
  | call f program callee values =>
    simp only [settle, ht.tailCalls] at h ⊢
    split
    · rfl
    · rename_i htail
      by_cases hfull : small.maxCallDepth ≤ below.length + 1
      · simp only [htail, hfull, if_true] at h
        exact absurd rfl (h callee.name small.maxCallDepth)
      · have hroom : ¬ large.maxCallDepth ≤ below.length + 1 := by
          have hdepth := ht.depth
          omega
        simp only [hfull, hroom, if_false]
        rfl

variable {m : Machine}

theorem step_withLimits (ht : small.Tightens m.limits)
    (h : WithinDepth ((m.withLimits small).step files).1) :
    (m.withLimits small).step files =
      ((m.step files).1, (m.step files).2.withLimits small) := by
  rcases m.step_cases files with ⟨name, hwaiting, hstep⟩ | ⟨hwaiting, hframes, hstep⟩ |
    ⟨f, below, hm, hstep⟩
  · have hwaiting' : (m.withLimits small).waiting = some name := hwaiting
    rw [hstep, step_of_waiting hwaiting']
  · rw [hstep]
    simp [step, withLimits, hwaiting, hframes]
  · have hsmall : (m.withLimits small).step files = settle small below (f.act files m.world) := by
      rw [← step_running, hm]
      rfl
    rw [hsmall] at h ⊢
    rw [hstep]
    exact settle_withLimits ht h

theorem provide_withLimits (m : Machine) (limits : Limits) (v : Value) :
    (m.withLimits limits).provide v = (m.provide v).map (·.withLimits limits) := by
  obtain ⟨frames, waiting, printed, limits', input, library⟩ := m
  cases waiting with
  | none => rfl
  | some name => cases frames <;> rfl

theorem move_limits (m : Machine) (a : Move) : (m.move a).2.limits = m.limits := by
  rcases m.move_cases a with hsame | ⟨files, limits, f, below, w, -, rfl, hmoved⟩ |
    ⟨v, limits, f, below, w, name, -, rfl, hmoved⟩
  · rw [hsame]
  · rw [hmoved, settle_limits]
    rfl
  · rw [hmoved]
    rfl

theorem moves_limits (m : Machine) (schedule : List Move) :
    (m.moves schedule).2.limits = m.limits := by
  induction schedule generalizing m with
  | nil => rfl
  | cons a rest ih =>
    rw [moves, ih, move_limits]

theorem nests_withLimits (ht : small.tailCalls = m.limits.tailCalls) {name : String} :
    (m.withLimits small).Nests files name ↔ m.Nests files name := by
  unfold Nests withLimits
  rw [ht]

theorem move_withLimits (ht : small.Tightens m.limits) {a : Move}
    (h : ¬ ((m.withLimits small).move a).1.DepthExceeded) :
    (m.withLimits small).move a = ((m.move a).1, (m.move a).2.withLimits small) := by
  cases a with
  | step files =>
    have hwithin : WithinDepth ((m.withLimits small).step files).1 := by
      intro name limit hfail
      exact h ⟨name, limit, congrArg Reply.stepped hfail⟩
    simp only [move]
    rw [step_withLimits ht hwithin]
  | provide v =>
    simp only [move]
    rw [provide_withLimits]
    cases m.provide v <;> rfl

theorem moves_withLimits (ht : small.Tightens m.limits) {schedule : List Move}
    (h : ∀ reply ∈ ((m.withLimits small).moves schedule).1, ¬ reply.DepthExceeded) :
    (m.withLimits small).moves schedule =
      ((m.moves schedule).1, (m.moves schedule).2.withLimits small) := by
  induction schedule generalizing m with
  | nil => rfl
  | cons a rest ih =>
    have hmove := move_withLimits ht (h _ (List.mem_cons_self ..))
    simp only [moves, hmove] at h ⊢
    rw [← move_limits m a] at ht
    rw [ih ht fun reply hreply => h reply (List.mem_cons_of_mem _ hreply)]

end

end Machine

/-! ## Histories -/

def History.Extends (later earlier : History) : Prop :=
  later = earlier ∨ earlier.ended = none ∧ earlier.happenings <+: later.happenings

namespace History

theorem Extends.after {later earlier : History} (h : later.Extends earlier) (seen : List Happening) :
    (later.after seen).Extends (earlier.after seen) := by
  rcases h with rfl | ⟨hended, hprefix⟩
  · exact .inl rfl
  · exact .inr ⟨hended, (List.prefix_append_right_inj seen).mpr hprefix⟩

theorem Extends.happenings {later earlier : History} (h : later.Extends earlier) :
    earlier.happenings <+: later.happenings := by
  rcases h with rfl | ⟨-, hprefix⟩
  · exact List.prefix_refl _
  · exact hprefix

theorem Extends.report? {later earlier : History} (h : later.Extends earlier) {r : Report}
    (hr : earlier.report? = some r) : later.report? = some r := by
  rcases h with rfl | ⟨hended, -⟩
  · exact hr
  · simp [History.report?, hended] at hr

end History

namespace Machine

variable {files : FileSystem}

theorem history_extends (m : Machine) {n n' : Nat} (hle : n ≤ n') (answers : List Value) :
    (m.history files n' answers).Extends (m.history files n answers) := by
  induction n generalizing m n' answers with
  | zero => exact .inr ⟨rfl, List.nil_prefix⟩
  | succ n ih =>
    obtain ⟨n', rfl⟩ : ∃ k, n' = k + 1 := ⟨n' - 1, by omega⟩
    have hle : n ≤ n' := by omega
    obtain ⟨seen, -, ⟨reason, stopped, -, hends⟩ | ⟨next, rest, -, hgoes⟩⟩ :=
      m.turn_cases files answers
    · rw [hends, hends]
      exact .inl rfl
    · rw [hgoes, hgoes]
      exact (ih next hle rest).after seen

theorem began_prefix_history {m : Machine} {s : Statement} (h : m.upcoming = some s) (n : Nat)
    (answers : List Value) : [.began s] <+: (m.history files (n + 1) answers).happenings := by
  obtain ⟨seen, hbegan, ⟨reason, stopped, -, hends⟩ | ⟨next, rest, -, hgoes⟩⟩ :=
    m.turn_cases files answers
  · rw [h] at hbegan
    rw [hends]
    exact hbegan
  · rw [h] at hbegan
    rw [hgoes]
    exact hbegan.trans (List.prefix_append ..)

end Machine

/-- The first history is the second one, or it is cut off where the depth limit was met. -/
def History.CutAtDepth (cut full : History) : Prop :=
  cut = full ∨ ∃ name limit w,
    cut.ended = some (.error (.callDepthExceeded name limit), w) ∧ cut.happenings <+: full.happenings

theorem History.CutAtDepth.after {cut full : History} (h : cut.CutAtDepth full)
    (seen : List Happening) : (cut.after seen).CutAtDepth (full.after seen) := by
  rcases h with rfl | ⟨name, limit, w, hended, hprefix⟩
  · exact .inl rfl
  · exact .inr ⟨name, limit, w, hended, (List.prefix_append_right_inj seen).mpr hprefix⟩

theorem History.CutAtDepth.happenings {cut full : History} (h : cut.CutAtDepth full) :
    cut.happenings <+: full.happenings := by
  rcases h with rfl | ⟨-, -, -, -, hprefix⟩
  · exact List.prefix_refl _
  · exact hprefix

namespace Machine

theorem history_withLimits {small : Limits} {m : Machine} (ht : small.Tightens m.limits)
    (files : FileSystem) (n : Nat) (answers : List Value) :
    ((m.withLimits small).history files n answers).CutAtDepth (m.history files n answers) := by
  -- By the turns: as long as neither fails at its limit, the two machines differ in the limits only.
  induction n generalizing m answers with
  | zero => exact .inl rfl
  | succ n ih =>
    by_cases hwithin : WithinDepth ((m.withLimits small).step files).1
    · have hsmall := step_withLimits ht hwithin
      have hlimits : (m.step files).2.limits = m.limits := move_limits m (.step files)
      obtain ⟨⟨result, next⟩, hstep⟩ : ∃ out, m.step files = out := ⟨_, rfl⟩
      rw [hstep] at hsmall hlimits
      rw [← hlimits] at ht
      have hsame : (m.withLimits small).happenings (next.withLimits small) = m.happenings next := rfl
      have hstop : ∀ (hrunning : result ≠ .ok .running)
          (hwait : ∀ name, result ≠ .ok (.suspended name)),
          ((m.withLimits small).history files (n + 1) answers).CutAtDepth
            (m.history files (n + 1) answers) := by
        intro hrunning hwait
        rw [history_of_stop hstep hrunning hwait, history_of_stop hsmall hrunning hwait]
        exact .inl rfl
      cases result with
      | error e => exact hstop (by simp) (by simp)
      | ok progress =>
        cases progress with
        | done => exact hstop (by simp) (by simp)
        | running =>
          rw [history_of_running hstep, history_of_running hsmall, hsame]
          exact (ih ht answers).after _
        | suspended name =>
          have hanswer := next.provide_withLimits small (answers.headD .null)
          cases hprovide : next.provide (answers.headD .null) with
          | error e =>
            rw [hprovide] at hanswer
            rw [history_of_refused hstep hprovide, history_of_refused hsmall hanswer]
            exact .inl rfl
          | ok resumed =>
            rw [hprovide] at hanswer
            have hresumed : resumed.limits = next.limits := by
              have hmoved := move_limits next (.provide (answers.headD .null))
              simpa only [move, hprovide] using hmoved
            rw [← hresumed] at ht
            rw [history_of_suspended hstep hprovide, history_of_suspended hsmall hanswer, hsame]
            exact (ih ht answers.tail).after _
    · -- the failing step shows nothing but the call that it began
      obtain ⟨name, limit, hdepth⟩ : ∃ name limit, ((m.withLimits small).step files).1 =
          .error (.callDepthExceeded name limit) := by
        simpa [WithinDepth] using hwithin
      have hfail : (m.withLimits small).step files =
          (.error (.callDepthExceeded name limit), ((m.withLimits small).step files).2) := by
        rw [← hdepth]
      obtain ⟨-, f, below, s, g, -, -, -, -, hupcoming, hbegan⟩ := step_error hfail
      have hcut := history_of_stop hfail (by simp) (by simp) n answers
      rw [hbegan] at hcut
      refine .inr ⟨name, limit, ((m.withLimits small).step files).2.world, ?_, ?_⟩
      · rw [hcut]
        rfl
      · rw [hcut]
        exact began_prefix_history (m := m) hupcoming n answers

end Machine

namespace Program

variable (p : Program) (files : FileSystem) (d : Discipline)

theorem history_limits {small large : Limits} (ht : small.Tightens large) (n : Nat)
    (o : RunOptions) :
    (p.history files n { o with limits := small } d).CutAtDepth
      (p.history files n { o with limits := large } d) := by
  unfold history
  cases p.find? o.entry with
  | none => exact .inl rfl
  | some f =>
    let m := p.initial f { o with limits := large } d
    have hsmall : p.initial f { o with limits := small } d = m.withLimits small := rfl
    have hcut : ((m.withLimits small).history files n d.answers).CutAtDepth
        (m.history files n d.answers) := Machine.history_withLimits ht files n d.answers
    rw [← hsmall] at hcut
    exact hcut

theorem history_extends {n n' : Nat} (hle : n ≤ n') (o : RunOptions) :
    (p.history files n' o d).Extends (p.history files n o d) := by
  unfold history
  cases p.find? o.entry with
  | none => exact .inl rfl
  | some f => exact Machine.history_extends _ hle d.answers

section

variable {p files d} {o : RunOptions} {small large : Limits}

theorem ends_limits (ht : small.Tightens large) {r : Report}
    (h : p.Ends files { o with limits := small } d r) (hdepth : ¬ r.DepthExceeded) :
    p.Ends files { o with limits := large } d r := by
  rw [ends_iff_history] at h ⊢
  obtain ⟨n, hn⟩ := h
  refine ⟨n, ?_⟩
  rcases p.history_limits files d ht n o with hsame | ⟨name, limit, w, hended, -⟩
  · rw [← hsame, hn]
  · -- a history cut off at the limit ends in a report that says so
    obtain ⟨hreport, -⟩ := History.report?_eq_some_iff.mp hn
    rw [hended] at hreport
    obtain ⟨hresult, -⟩ := Prod.mk.inj (Option.some.inj hreport)
    exact absurd ⟨name, limit, hresult.symm⟩ hdepth

theorem history_limits_of_endless (ht : small.Tightens large)
    (h : ∀ r, ¬ p.Ends files { o with limits := small } d r) (n : Nat) :
    p.history files n { o with limits := large } d =
      p.history files n { o with limits := small } d := by
  rcases p.history_limits files d ht n o with hsame | ⟨name, limit, w, hended, -⟩
  · exact hsame.symm
  · have hreport : ∃ r, (p.history files n { o with limits := small } d).report? = some r := by
      rw [History.report?, hended]
      exact ⟨_, rfl⟩
    obtain ⟨r, hr⟩ := hreport
    exact absurd ((p.ends_iff_history files _ d r).mpr ⟨n, hr⟩) (h r)

theorem events_limits (ht : small.Tightens large) {r : Report}
    (h : p.Ends files { o with limits := small } d r) :
    ∃ turns, ∀ n, turns ≤ n → r.events <+:
      (p.history files n { o with limits := large } d).happenings.filterMap Happening.event? := by
  obtain ⟨turns, hturns⟩ := (p.ends_iff_history files _ d r).mp h
  refine ⟨turns, ?_⟩
  intro n hle
  obtain ⟨-, hevents⟩ := History.report?_eq_some_iff.mp hturns
  have hcut := (p.history_limits files d ht turns o).happenings
  have hlater := (p.history_extends files d hle { o with limits := large }).happenings
  rw [hevents]
  exact (hcut.trans hlater).filterMap _

theorem events_prefix_of_ends (ht : small.Tightens large) {r r' : Report}
    (h : p.Ends files { o with limits := small } d r)
    (h' : p.Ends files { o with limits := large } d r') : r.events <+: r'.events := by
  obtain ⟨turns, hturns⟩ := events_limits ht h
  obtain ⟨turns', hended⟩ := (p.ends_iff_history files _ d r').mp h'
  have hlate := (p.history_extends files d (Nat.le_max_right turns turns')
    { o with limits := large }).report? hended
  obtain ⟨-, hevents⟩ := History.report?_eq_some_iff.mp hlate
  rw [hevents]
  exact hturns _ (Nat.le_max_left turns turns')

end

/-- The depth limit bounds the stack and does nothing else. No more calls are in progress than the
limit admits, the first one apart. A machine with a lower limit goes through the same states, with
the same replies, as one with a higher limit, until it fails at the limit; and it does so exactly at
a call that is to stand above its caller, with arguments that have values and a function that is
found, where there are already as many calls in progress as the lower limit admits. So a run that
ends in another way ends in that way with the higher limit too, one that does not end is the same
turn by turn, and one that fails at the limit has shown the beginning of what the other one shows.
-/
theorem depthLimit_only_bounds (p : Program) (o : RunOptions) (tailCalls : Bool) {small large : Nat}
    (hle : small ≤ large) :
    let narrow : RunOptions := { o with limits := ⟨small, tailCalls⟩ }
    let wide : RunOptions := { o with limits := ⟨large, tailCalls⟩ }
    (∀ input m, p.machine narrow input = .ok m → ∀ schedule,
      (m.moves schedule).2.frames.length ≤ max 1 small) ∧
    (∀ input a b, p.machine narrow input = .ok a → p.machine wide input = .ok b → ∀ schedule,
      (∀ reply ∈ (a.moves schedule).1, ¬ reply.DepthExceeded) →
      a.moves schedule = ((b.moves schedule).1, (b.moves schedule).2.withLimits narrow.limits) ∧
      ∀ files name limit,
        ((a.moves schedule).2.step files).1 = .error (.callDepthExceeded name limit) ↔
          limit = small ∧ (b.moves schedule).2.Nests files name ∧
            small ≤ (b.moves schedule).2.frames.length) ∧
    ∀ files d,
      (∀ r, p.Ends files narrow d r → ¬ r.DepthExceeded → p.Ends files wide d r) ∧
      ((∀ r, ¬ p.Ends files narrow d r) →
        ∀ n, p.history files n wide d = p.history files n narrow d) ∧
      ∀ r, p.Ends files narrow d r → r.DepthExceeded →
        (∃ turns, ∀ n, turns ≤ n → r.events <+:
          (p.history files n wide d).happenings.filterMap Happening.event?) ∧
        ∀ r', p.Ends files wide d r' →
          r.events <+: r'.events ∧ r.world.printed.toList <+: r'.world.printed.toList := by
  intro narrow wide
  have ht : narrow.limits.Tightens wide.limits := ⟨hle, rfl⟩
  refine ⟨fun input m h schedule => Machine.length_moves h schedule, ?_, ?_⟩
  · intro input a b ha hb schedule hreplies
    obtain rfl : a = b.withLimits narrow.limits := by
      obtain ⟨f, hf, rfl⟩ := Machine.running_of_machine ha
      obtain ⟨f', hf', rfl⟩ := Machine.running_of_machine hb
      obtain rfl : f' = f := Option.some.inj (hf'.symm.trans hf)
      rfl
    have hlimits : b.limits = wide.limits := by
      obtain ⟨f, -, rfl⟩ := Machine.running_of_machine hb
      rfl
    rw [← hlimits] at ht
    have hmoves := Machine.moves_withLimits ht hreplies
    refine ⟨hmoves, ?_⟩
    intro files name limit
    rw [← b.moves_limits schedule] at ht
    rw [hmoves, Machine.step_depth_iff, Machine.nests_withLimits ht.tailCalls]
    rfl
  · intro files d
    refine ⟨fun r h hdepth => ends_limits ht h hdepth, history_limits_of_endless ht, ?_⟩
    intro r h _
    refine ⟨events_limits ht h, ?_⟩
    intro r' h'
    have hevents := events_prefix_of_ends ht h h'
    refine ⟨hevents, ?_⟩
    rw [← printed_of_ends h, ← printed_of_ends h']
    exact hevents.filterMap _

def descending : Program where
  baseDir := ""
  functions :=
    [⟨"main", [], [.print (.str "a"), .call "f" none [], .print (.str "z")]⟩,
     ⟨"f", [], [.print (.str "b"), .guard (.bool true) [.call "g" none []], .print (.str "y")]⟩,
     ⟨"g", [], [.print (.str "c"), .call "h" none [], .leave]⟩,
     ⟨"h", [], [.print (.str "d")]⟩]

theorem depthLimit_only_bounds_descending :
    let schedule : List Move := List.replicate 4 (.step .empty)
    let two : RunOptions := { limits := ⟨2, true⟩ }
    let three : RunOptions := { limits := ⟨3, true⟩ }
    (∃ a b, descending.machine two .interactive = .ok a ∧
      descending.machine three .interactive = .ok b ∧
      (a.moves schedule).2.frames.length = 2 ∧ (a.moves schedule).2.frames.length ≤ max 1 2 ∧
      (a.moves schedule).2 = (b.moves schedule).2.withLimits two.limits ∧
      (b.moves schedule).2.Nests .empty "g") ∧
    ∃ r r', descending.Ends .empty two (.buffered []) r ∧ r.DepthExceeded ∧
      descending.Ends .empty three (.buffered []) r' ∧ ¬ r'.DepthExceeded ∧
      descending.Ends .empty { limits := ⟨9, true⟩ } (.buffered []) r' ∧
      r.world.printed = #[.str "a", .str "b"] ∧
      r'.world.printed = #[.str "a", .str "b", .str "c", .str "d", .str "y", .str "z"] ∧
      r.world.printed.toList <+: r'.world.printed.toList := by
  intro schedule two three
  obtain ⟨hbound, hsame, hruns⟩ := depthLimit_only_bounds descending {} true (Nat.le_succ 2)
  obtain ⟨-, -, hwider⟩ := depthLimit_only_bounds descending {} true (Nat.le_add_right 3 6)
  constructor
  · obtain ⟨a, ha⟩ : ∃ a, descending.machine two .interactive = .ok a := ⟨_, rfl⟩
    obtain ⟨b, hb⟩ : ∃ b, descending.machine three .interactive = .ok b := ⟨_, rfl⟩
    have hquiet : (a.moves schedule).1 = List.replicate 4 (.stepped (.ok .running)) ∧
        (a.moves schedule).2.frames.length = 2 ∧
        ((a.moves schedule).2.step .empty).1 = .error (.callDepthExceeded "g" 2) := by
      obtain rfl := Except.ok.inj ha
      exact ⟨rfl, rfl, rfl⟩
    have hreplies : ∀ reply ∈ (a.moves schedule).1, ¬ reply.DepthExceeded := by
      intro reply hreply
      rw [hquiet.1] at hreply
      rw [List.eq_of_mem_replicate hreply]
      simp [Reply.DepthExceeded]
    obtain ⟨hmoves, hdepth⟩ := hsame _ a b ha hb schedule hreplies
    exact ⟨a, b, ha, hb, hquiet.2.1, hbound _ a ha schedule, congrArg Prod.snd hmoves,
      ((hdepth .empty "g" 2).mp hquiet.2.2).2.1⟩
  · obtain ⟨r, hr, hfull, hprinted⟩ : ∃ r, descending.Ends .empty two (.buffered []) r ∧
        r.DepthExceeded ∧ r.world.printed = #[.str "a", .str "b"] :=
      ⟨_, ⟨9, rfl⟩, ⟨"g", 2, rfl⟩, rfl⟩
    obtain ⟨r', hr', hresult, hprinted'⟩ : ∃ r', descending.Ends .empty three (.buffered []) r' ∧
        r'.result = .ok () ∧ r'.world.printed =
          #[.str "a", .str "b", .str "c", .str "d", .str "y", .str "z"] :=
      ⟨_, ⟨19, rfl⟩, rfl, rfl⟩
    have hended : ¬ r'.DepthExceeded := by simp [Report.DepthExceeded, hresult]
    obtain ⟨-, hshown⟩ := (hruns .empty (.buffered [])).2.2 r hr hfull
    exact ⟨r, r', hr, hfull, hr', hended, (hwider .empty (.buffered [])).1 r' hr' hended, hprinted,
      hprinted', (hshown r' hr').2⟩

end Program

end Runbook

import Runbook.Proofs.Machine.History

/-!
# Input that is there from the start and input given on request

A run goes through the same turns with either: a read takes the next value at once, or asks,
leaves the stack as it is, and has the answer stored where the read would have stored it.
-/

namespace Runbook

def World.interactive (w : World) : World := { w with input := .interactive }

namespace Machine.Event

def value? : Event → Option Value
  | .printed v => some v
  | .asked _ => none

def request? : Event → Option String
  | .printed _ => none
  | .asked name => some name

end Machine.Event

namespace Happening

def read? : Happening → Option String
  | .began (.ask name) => some name
  | _ => none

def withRequest : Happening → List Happening
  | .began (.ask name) => [.began (.ask name), .event (.asked name)]
  | h => [h]

end Happening

namespace History

def reads (h : History) : List String := h.happenings.filterMap Happening.read?

def requests (h : History) : List String :=
  (h.happenings.filterMap Happening.event?).filterMap Machine.Event.request?

def values (h : History) : List Value :=
  (h.happenings.filterMap Happening.event?).filterMap Machine.Event.value?

/-- The same turns with a request right after each read that is begun. -/
def interactive (h : History) : History where
  happenings := h.happenings.flatMap Happening.withRequest
  ended := h.ended.map fun (result, w) => (result, w.interactive)

theorem interactive_after (h : History) (earlier : List Happening) :
    (h.after earlier).interactive = h.interactive.after (earlier.flatMap Happening.withRequest) := by
  simp [interactive, after]

theorem report?_eq_some_iff {h : History} {r : Report} :
    h.report? = some r ↔
      h.ended = some (r.result, r.world) ∧ r.events = h.happenings.filterMap Happening.event? := by
  obtain ⟨happenings, ended⟩ := h
  obtain ⟨result, w, events⟩ := r
  cases ended with
  | none => simp [report?]
  | some outcome =>
    obtain ⟨result', w'⟩ := outcome
    simp only [report?, Option.map_some, Option.some.injEq, Report.mk.injEq, Prod.mk.injEq,
      and_assoc]
    constructor
    · rintro ⟨h, h', h''⟩
      exact ⟨h, h', h''.symm⟩
    · rintro ⟨h, h', h''⟩
      exact ⟨h, h', h''.symm⟩

theorem values_after (h : History) (earlier : List Happening) :
    (h.after earlier).values =
      (earlier.filterMap Happening.event?).filterMap Machine.Event.value? ++ h.values := by
  simp [values, after, List.filterMap_append]

theorem values_interactive (h : History) : h.interactive.values = h.values := by
  obtain ⟨happenings, ended⟩ := h
  simp only [values, interactive]
  induction happenings with
  | nil => rfl
  | cons first rest ih =>
    rw [List.flatMap_cons, List.filterMap_append, List.filterMap_append, ih]
    cases first with
    | began s => cases s <;> rfl
    | event e => cases e <;> rfl

theorem report?_interactive {h : History} {r r' : Report} (hr : h.report? = some r)
    (hr' : h.interactive.report? = some r') :
    r'.result = r.result ∧ r'.world = r.world.interactive ∧
      r'.events.filterMap Machine.Event.value? = r.events.filterMap Machine.Event.value? := by
  obtain ⟨hended, hevents⟩ := report?_eq_some_iff.mp hr
  obtain ⟨hended', hevents'⟩ := report?_eq_some_iff.mp hr'
  have houtcome : (r.result, r.world.interactive) = (r'.result, r'.world) := by
    simpa [interactive, hended] using hended'
  obtain ⟨hresult, hworld⟩ := Prod.mk.inj houtcome
  refine ⟨hresult.symm, hworld.symm, ?_⟩
  rw [hevents, hevents']
  exact h.values_interactive

theorem report?_interactive_isSome (h : History) :
    h.interactive.report?.isSome = h.report?.isSome := by
  simp [report?, interactive]

theorem requests_interactive {h : History} (hnone : ∀ name, .event (.asked name) ∉ h.happenings) :
    h.interactive.requests = h.interactive.reads := by
  obtain ⟨happenings, ended⟩ := h
  simp only [requests, reads, interactive] at hnone ⊢
  induction happenings with
  | nil => rfl
  | cons first rest ih =>
    rw [List.flatMap_cons, List.filterMap_append, List.filterMap_append, List.filterMap_append,
      ih fun name hname => hnone name (List.mem_cons_of_mem first hname)]
    cases first with
    | began s => cases s <;> rfl
    | event e =>
      cases e with
      | printed v => rfl
      | asked name => exact absurd (List.mem_cons_self ..) (hnone name)

end History

namespace Frame

variable (files : FileSystem) (f : Frame) (w : World)

theorem perform_input {s : Statement} (hs : ∀ name, s ≠ .ask name) (input : Input) :
    f.perform files { w with input := input } s =
      ((f.perform files w s).1, { (f.perform files w s).2 with input := input }) := by
  cases s with
  | print e =>
    simp only [perform]
    cases f.eval e <;> rfl
  | assign name op value =>
    simp only [perform]
    cases f.eval value <;> rfl
  | guard test body =>
    simp only [perform]
    cases f.eval test <;> rfl
  | leave => rfl
  | ask name => exact absurd rfl (hs name)
  | call function file args =>
    simp only [perform]
    cases args.mapM f.eval with
    | error err => rfl
    | ok values =>
      obtain ⟨resolved, library⟩ := w.library.resolve files f.program function file
      cases resolved <;> rfl

theorem act_input
    (hs : ∀ name cursor, Cursor.next? f.function.body f.cursor ≠ some (.ask name, cursor))
    (input : Input) :
    f.act files { w with input := input } =
      ((f.act files w).1, { (f.act files w).2 with input := input }) := by
  unfold act
  cases hnext : Cursor.next? f.function.body f.cursor with
  | none => rfl
  | some read =>
    obtain ⟨s, cursor⟩ := read
    apply perform_input
    rintro name rfl
    exact hs name cursor hnext

end Frame

namespace Machine

theorem settle_interactive (limits : Limits) (below : List Frame) (done : Deed × World) :
    settle limits below (done.1, done.2.interactive) =
      ((settle limits below done).1, (settle limits below done).2.interactive) := by
  obtain ⟨deed, w⟩ := done
  cases deed with
  | proceed f | finish | wait f name | fail f e => rfl
  | call f program function args =>
    simp only [settle]
    split
    · rfl
    · split <;> rfl

section

variable {files : FileSystem} {limits : Limits} {frames : List Frame} {w : World}

theorem running_interactive (limits : Limits) (frames : List Frame) (w : World) :
    (running limits frames w).interactive = running limits frames w.interactive := rfl

theorem step_interactive (hs : ∀ name, (running limits frames w).upcoming ≠ some (.ask name))
    {result : Except Error Progress} {next : Machine}
    (h : (running limits frames w).step files = (result, next)) :
    (running limits frames w).interactive.step files = (result, next.interactive) ∧
      next.input = w.input := by
  cases frames with
  | nil =>
    obtain ⟨rfl, rfl⟩ := Prod.mk.inj h
    exact ⟨rfl, rfl⟩
  | cons f below =>
    have hread : ∀ name cursor,
        Cursor.next? f.function.body f.cursor ≠ some (.ask name, cursor) := by
      intro name cursor hnext
      apply hs name
      simp [upcoming, running, hnext]
    rw [step_running] at h
    constructor
    · rw [running_interactive, step_running, World.interactive, f.act_input files w hread]
      have hsettle := settle_interactive limits below (f.act files w)
      rw [h] at hsettle
      exact hsettle
    · have hworld := settle_world limits below (f.act files w)
      have hinput := congrArg (·.2.input) (f.act_input files w hread w.input)
      rw [h] at hworld
      exact (congrArg World.input hworld).trans hinput

theorem step_read {values : List Value} (hinput : w.input = .buffered values) {name : String}
    (h : (running limits frames w).upcoming = some (.ask name)) (files : FileSystem) :
    ∃ g below, (running limits frames w).step files =
        (.ok .running, running limits (g.set name (values.headD .null) :: below)
          { w with input := .buffered values.tail }) ∧
      (running limits frames w).interactive.step files =
        (.ok (.suspended name), paused limits (g :: below) w.interactive name) := by
  cases frames with
  | nil => simp [upcoming, running] at h
  | cons f below =>
    obtain ⟨⟨s, cursor⟩, hnext, rfl⟩ := Option.map_eq_some_iff.mp h
    refine ⟨{ f with cursor := cursor }, below, ?_, ?_⟩
    · rw [step_running, Frame.act, hnext]
      simp only [Frame.perform, hinput]
      rfl
    · rw [running_interactive, step_running, Frame.act, hnext]
      rfl

theorem step_buffered {values : List Value} (hinput : w.input = .buffered values)
    (files : FileSystem) :
    (∃ frames' w' values', (running limits frames w).step files =
        (.ok .running, running limits frames' w') ∧ w'.input = .buffered values') ∨
      ∃ result stopped, (running limits frames w).step files = (result, stopped) ∧
        result ≠ .ok .running ∧ ∀ name, result ≠ .ok (.suspended name) := by
  cases frames with
  | nil => exact .inr ⟨_, _, step_running_nil files limits w, by simp, by simp⟩
  | cons f below =>
    obtain ⟨hwait, values', hinput'⟩ := f.act_buffered hinput files
    rw [step_running]
    rcases settle_cases limits below (f.act files w) with ⟨frames', hgo⟩ | ⟨g, name, hact, -⟩ |
      ⟨e, g, hfail⟩
    · exact .inl ⟨frames', _, values', hgo, hinput'⟩
    · exact absurd hact (hwait g name)
    · exact .inr ⟨_, _, hfail, by simp, by simp⟩

end

/-! ## Whole runs -/

theorem asked_not_mem_happenings (m next : Machine) (name : String) :
    .event (.asked name) ∉ m.happenings next := by
  intro h
  rcases List.mem_append.mp h with h | h
  · simp at h
  · obtain ⟨e, he, hasked⟩ := List.mem_map.mp h
    obtain ⟨v, -, rfl⟩ := List.mem_map.mp he
    simp at hasked

theorem happenings_of_silent {m next : Machine} {s : Statement}
    (h : m.upcoming = some s) (hsame : next.printed = m.printed) :
    m.happenings next = [.began s] := by
  simp [happenings, h, printedSince, hsame]

theorem happenings_withRequest {m : Machine} (h : ∀ name, m.upcoming ≠ some (.ask name))
    (next : Machine) :
    (m.happenings next).flatMap Happening.withRequest = m.happenings next := by
  have hevents : ∀ events : List Event,
      (events.map Happening.event).flatMap Happening.withRequest = events.map .event := by
    intro events
    rw [List.flatMap_map, List.map_eq_flatMap]
    rfl
  rw [happenings, List.flatMap_append, hevents]
  congr 1
  cases hnext : m.upcoming with
  | none => rfl
  | some s =>
    cases s with
    | ask name => exact absurd hnext (h name)
    | print _ | assign _ _ _ | guard _ _ | leave | call _ _ _ => rfl

theorem history_buffered {limits : Limits} {frames : List Frame} {w : World} {values : List Value}
    (hinput : w.input = .buffered values) (files : FileSystem) (n : Nat) (name : String) :
    .event (.asked name) ∉ ((running limits frames w).history files n []).happenings := by
  induction n generalizing frames w values with
  | zero => simp [history]
  | succ n ih =>
    rcases step_buffered hinput files with
      ⟨frames', w', values', hstep, hinput'⟩ | ⟨result, stopped, hstep, hrunning, hwait⟩
    · rw [history_of_running hstep]
      simp only [History.after, List.mem_append, not_or]
      exact ⟨asked_not_mem_happenings _ _ name, ih hinput'⟩
    · rw [history_of_stop hstep hrunning hwait]
      exact asked_not_mem_happenings _ _ name

theorem history_interactive {limits : Limits} {frames : List Frame} {w : World} {values : List Value}
    (hinput : w.input = .buffered values) (files : FileSystem) (n : Nat) :
    (running limits frames w).interactive.history files n values =
      ((running limits frames w).history files n []).interactive := by
  -- By the turns: the values not yet read on one side are the answers not yet given on the other.
  induction n generalizing frames w values with
  | zero => rfl
  | succ n ih =>
    have hupcoming : (running limits frames w).interactive.upcoming =
        (running limits frames w).upcoming := rfl
    by_cases hread : ∃ name, (running limits frames w).upcoming = some (.ask name)
    · obtain ⟨name, hname⟩ := hread
      obtain ⟨g, below, hbuffered, hasking⟩ := step_read hinput hname files
      have hprovide : (paused limits (g :: below) w.interactive name).provide (values.headD .null) =
          .ok (running limits (g.set name (values.headD .null) :: below)
            { w with input := .buffered values.tail }).interactive := rfl
      rw [history_of_running hbuffered, history_of_suspended hasking hprovide, ih rfl,
        History.interactive_after, happenings_of_silent hname,
        happenings_of_silent (hupcoming.trans hname)]
      · rfl
      · rfl
      · rfl
    · have hother : ∀ name, (running limits frames w).upcoming ≠ some (.ask name) :=
        fun name hname => hread ⟨name, hname⟩
      have hsame : ∀ next : Machine, (running limits frames w).interactive.happenings
          next.interactive = (running limits frames w).happenings next := fun _ => rfl
      rcases step_buffered hinput files with
        ⟨frames', w', values', hstep, hinput'⟩ | ⟨result, stopped, hstep, hrunning, hwait⟩
      · obtain ⟨hasking, hkept⟩ := step_interactive hother hstep
        have hinput' : w'.input = .buffered values := hkept.trans hinput
        rw [history_of_running hstep, history_of_running hasking, ih hinput',
          History.interactive_after, hsame, happenings_withRequest hother]
      · obtain ⟨hasking, -⟩ := step_interactive hother hstep
        rw [history_of_stop hstep hrunning hwait, history_of_stop hasking hrunning hwait, hsame]
        simp only [History.interactive, happenings_withRequest hother]
        rfl

end Machine

namespace Program

section

variable (p : Program) (files : FileSystem) (o : RunOptions) (values : List Value)

theorem history_answering (n : Nat) :
    p.history files n o (.answering values) =
      (p.history files n o (.buffered values)).interactive := by
  have hinput : (o.world (.buffered values)).input = .buffered values := rfl
  unfold history
  cases p.find? o.entry with
  | none => rfl
  | some f => exact Machine.history_interactive hinput files n

theorem requests_answering (n : Nat) :
    (p.history files n o (.answering values)).requests =
      (p.history files n o (.answering values)).reads := by
  rw [history_answering]
  apply History.requests_interactive
  intro name
  unfold history
  cases p.find? o.entry with
  | none => simp
  | some f => exact Machine.history_buffered rfl files n name

theorem exists_ends_iff (d : Discipline) :
    (∃ r, p.Ends files o d r) ↔ ∃ n, (p.history files n o d).report?.isSome := by
  simp only [ends_iff_history, Option.isSome_iff_exists]
  exact exists_comm

theorem stream_eq_run (fuel : Nat) (inputs : List Value) :
    p.stream files fuel o inputs values = p.run files fuel o (.answering values) := by
  simp only [run, stream, machine]
  cases Machine.start p o.entry o.args <;> rfl

end

/-- A run with its input there from the start and a run answered with the same values go through the
same turns, and the second one asks exactly once for each read it begins, in order. So both end or
neither does, with the same result, the same values printed and the same programs loaded. Values put
ready for the second run make no difference. -/
theorem disciplines_agree (p : Program) (files : FileSystem) (o : RunOptions) (values : List Value) :
    (∀ n, p.history files n o (.answering values) =
        (p.history files n o (.buffered values)).interactive ∧
      (p.history files n o (.answering values)).requests =
        (p.history files n o (.answering values)).reads) ∧
    (∀ d r, p.Ends files o d r ↔ ∃ n, (p.history files n o d).report? = some r) ∧
    ((∃ r, p.Ends files o (.buffered values) r) ↔ ∃ r, p.Ends files o (.answering values) r) ∧
    (∀ r r', p.Ends files o (.buffered values) r → p.Ends files o (.answering values) r' →
      r'.result = r.result ∧ r'.world = r.world.interactive ∧
        r'.events.filterMap Machine.Event.value? = r.events.filterMap Machine.Event.value?) ∧
    ∀ fuel inputs, p.stream files fuel o inputs values = p.run files fuel o (.answering values) := by
  refine ⟨fun n => ⟨p.history_answering files o values n, p.requests_answering files o values n⟩,
    p.ends_iff_history files o, ?_, ?_, p.stream_eq_run files o values⟩
  · simp only [exists_ends_iff, history_answering, History.report?_interactive_isSome]
  · intro r r' hends hends'
    obtain ⟨n, hn⟩ := (p.ends_iff_history files o (.buffered values) r).mp hends
    have hr' : ∃ r', (p.history files n o (.buffered values)).interactive.report? = some r' := by
      rw [← Option.isSome_iff_exists, History.report?_interactive_isSome, hn]
      rfl
    obtain ⟨found, hfound⟩ := hr'
    have hfoundEnds : p.Ends files o (.answering values) found := by
      rw [ends_iff_history]
      refine ⟨n, ?_⟩
      rw [history_answering, hfound]
    -- The run ends in one way only, so the report is the one that these turns give.
    obtain rfl := hends'.unique hfoundEnds
    exact History.report?_interactive hn hfound

def inquiring : Program where
  baseDir := ""
  functions :=
    [⟨"main", [], [.ask "x", .guard (.var "x") [.ask "y", .call "more" none [.var "y"]],
      .print (.var "x"), .call "nowhere" none [], .ask "never"]⟩,
     ⟨"more", ["y"], [.print (.var "y"), .ask "z", .print (.var "z")]⟩]

theorem disciplines_agree_inquiring :
    ∃ r r', inquiring.Ends .empty {} (.buffered [.str "a", .str "b"]) r ∧
      inquiring.Ends .empty {} (.answering [.str "a", .str "b"]) r' ∧
      r.result = .error (.unknownFunction "nowhere") ∧
      r.world.printed = #[.str "b", .null, .str "a"] ∧
      r'.events = [.asked "x", .asked "y", .printed (.str "b"), .asked "z", .printed .null,
        .printed (.str "a")] ∧
      r'.result = r.result ∧ r'.world = r.world.interactive := by
  obtain ⟨-, -, -, hreports, -⟩ := disciplines_agree inquiring .empty {} [.str "a", .str "b"]
  have hbuffered : inquiring.Ends .empty {} (.buffered [.str "a", .str "b"])
      (World.reports ⟨#[.str "b", .null, .str "a"], .buffered [], .empty⟩
        (.error (.unknownFunction "nowhere"))) := ⟨20, rfl⟩
  have hanswering : inquiring.Ends .empty {} (.answering [.str "a", .str "b"])
      ⟨.error (.unknownFunction "nowhere"), ⟨#[.str "b", .null, .str "a"], .interactive, .empty⟩,
        [.asked "x", .asked "y", .printed (.str "b"), .asked "z", .printed .null,
          .printed (.str "a")]⟩ := ⟨20, rfl⟩
  obtain ⟨hresult, hworld, -⟩ := hreports _ _ hbuffered hanswering
  exact ⟨_, _, hbuffered, hanswering, rfl, rfl, rfl, hresult, hworld⟩

end Program

end Runbook

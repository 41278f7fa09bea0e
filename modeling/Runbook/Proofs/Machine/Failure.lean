import Runbook.Proofs.Machine.Disciplines
import Runbook.Proofs.Machine.Suspension

/-!
# A step that fails

It has passed its statement, as it would pass a guard that does not hold, and it has done nothing
else, except that a program it loaded stays loaded.
-/

namespace Runbook

/-! ## Another statement in the place of the next one -/

def Statement.withBody (body : List Statement) : Statement → Statement
  | .guard test _ => .guard test body
  | s => s

namespace Cursor

def replaceNext (s : Statement) (body : List Statement) : Cursor → List Statement
  | [] => body
  | index :: deeper =>
    match next? (inside body index) deeper with
    | some _ =>
      body.modify (index - 1) (Statement.withBody (replaceNext s (inside body index) deeper))
    | none => body.set index s

theorem inside_set (body : List Statement) (index : Nat) (s : Statement) :
    inside (body.set index s) index = inside body index := by
  cases index with
  | zero => rfl
  | succ index => simp [inside]

theorem inside_modify {body : List Statement} {index : Nat} (h : inside body index ≠ [])
    (inner : List Statement) :
    inside (body.modify (index - 1) (Statement.withBody inner)) index = inner := by
  cases index with
  | zero => simp [inside] at h
  | succ index =>
    unfold inside at h ⊢
    cases hguard : body[index]? with
    | none => simp [hguard] at h
    | some t =>
      cases t with
      | guard test body' => simp [hguard, Statement.withBody]
      | print | assign | call | leave | ask => simp [hguard] at h

theorem next?_replaceNext {body : List Statement} {cursor moved : Cursor} {s : Statement}
    (h : next? body cursor = some (s, moved)) (t : Statement) :
    next? (replaceNext t body cursor) cursor = some (t, moved) ∧
      remaining (replaceNext t body cursor) moved = remaining body moved := by
  induction cursor generalizing body moved with
  | nil => simp [next?] at h
  | cons index deeper ih =>
    unfold replaceNext
    cases hdeeper : next? (inside body index) deeper with
    | none =>
      simp only [next?, hdeeper] at h
      obtain ⟨u, hindex, hmoved⟩ := Option.map_eq_some_iff.mp h
      obtain ⟨rfl, rfl⟩ : u = s ∧ [index + 1] = moved := by simpa using hmoved
      obtain ⟨hlt, -⟩ := List.getElem?_eq_some_iff.mp hindex
      constructor
      · simp [next?, inside_set, hdeeper, hlt]
      · simp only [remaining]
        rw [List.drop_set_of_lt (Nat.lt_succ_self index)]
    | some read =>
      obtain ⟨u, inner⟩ := read
      simp only [next?, hdeeper] at h
      obtain ⟨rfl, rfl⟩ : u = s ∧ index :: inner = moved := by simpa using h
      obtain ⟨hnext, hremaining⟩ := ih hdeeper
      -- a block with a statement left is the body of a guard, so the guard is before the index
      have hopen : inside body index ≠ [] := by
        intro hnil
        rw [hnil] at hdeeper
        exact not_occursIn_nil (occursIn_of_next? hdeeper)
      have hbefore : index - 1 < index := by
        apply Nat.sub_lt _ Nat.one_pos
        apply Nat.pos_of_ne_zero
        rintro rfl
        exact hopen rfl
      constructor
      · simp only [next?, inside_modify hopen, hnext]
      · simp only [remaining]
        rw [inside_modify hopen, hremaining, List.drop_modify_of_lt _ _ _ _ hbefore]

end Cursor

namespace Frame

theorem Passes.eq {f g : Frame} {s : Statement} (h : f.Passes s g) :
    g = { f with cursor := g.cursor } := by
  obtain ⟨program, function, vars, cursor⟩ := g
  have hprogram : program = f.program := h.program
  have hfunction : function = f.function := h.function
  have hvars : vars = f.vars := h.vars
  rw [hprogram, hfunction, hvars]

def replaceNext (f : Frame) (s : Statement) : Frame :=
  { f with function := { f.function with
    body := Cursor.replaceNext s f.function.body f.cursor } }

theorem act_skip {f : Frame} {s : Statement} {moved : Cursor}
    (h : Cursor.next? f.function.body f.cursor = some (s, moved)) {test : Expr}
    {body : List Statement} {v : Value} (hv : f.eval test = .ok v) (hfalse : v.isTruthy = false)
    (files : FileSystem) (w : World) :
    (f.replaceNext (.guard test body)).act files w =
      (.proceed { f.replaceNext (.guard test body) with cursor := moved }, w) := by
  have hnext : Cursor.next? (f.replaceNext (.guard test body)).function.body
      (f.replaceNext (.guard test body)).cursor = some (.guard test body, moved) :=
    (Cursor.next?_replaceNext h _).1
  have heval : Frame.eval { f.replaceNext (.guard test body) with cursor := moved } test = .ok v := hv
  unfold act
  simp only [hnext, perform, heval, hfalse]
  rfl

end Frame

/-! ## What a failing step leaves -/

/-- The library after a statement of a call was performed: it is the same, or it has gained the one
program that the statement loaded. -/
def Library.GainsFor (l : Library) (files : FileSystem) (f : Frame) (s : Statement) (l' : Library) :
    Prop :=
  l' = l ∨ ∃ function path args key source q, s = .call function (some path) args ∧
    files.canonical (Path.join f.program.baseDir path) = .ok key ∧ l.find? key = none ∧
    files.read key = .ok source ∧ Program.parse source (Path.parent key) = .ok q ∧
    l'.entries = l.entries ++ [(key, q)]

theorem Library.gainsFor_of_loadPath {l : Library} {files : FileSystem} {f : Frame}
    {function path : String} {args : List Expr} {loaded : Loaded}
    (h : l.loadPath files (Path.join f.program.baseDir path) = .ok loaded) :
    l.GainsFor files f (.call function (some path) args) loaded.library := by
  obtain ⟨hkey, ⟨-, hsame⟩ | ⟨hnew, hadded, source, hread, hparse⟩⟩ := loadPath_cases h
  · exact .inl hsame
  · refine .inr ⟨function, path, args, loaded.path, source, loaded.program, rfl, hkey, hnew, hread,
      hparse, ?_⟩
    rw [hadded]

theorem Library.gainsFor_of_resolve {l l' : Library} {files : FileSystem} {f : Frame}
    {function : String} {file : Option String} {args : List Expr}
    {found : Except Error (Program × Function)}
    (h : l.resolve files f.program function file = (found, l')) :
    l.GainsFor files f (.call function file args) l' := by
  cases found with
  | error e =>
    rcases resolve_error h with rfl | ⟨path, loaded, rfl, hload, rfl⟩
    · exact .inl rfl
    · exact gainsFor_of_loadPath hload
  | ok callee =>
    rcases (resolve_ok h).2 with ⟨-, -, rfl⟩ | ⟨path, loaded, rfl, hload, -, rfl⟩
    · exact .inl rfl
    · exact gainsFor_of_loadPath hload

/-- The call that a deed leaves behind where it is, if the deed fails or calls a function. -/
def Deed.stalled? : Deed → Option Frame
  | .fail f _ => some f
  | .call f _ _ _ => some f
  | _ => none

theorem Frame.act_stalled {files : FileSystem} {f g : Frame} {w : World}
    (h : (f.act files w).1.stalled? = some g) :
    ∃ s, f.Passes s g ∧ (f.act files w).2 = { w with library := (f.act files w).2.library } ∧
      w.library.GainsFor files f s (f.act files w).2.library := by
  rcases f.act_performed files w with ⟨-, hact⟩ | ⟨s, moved, hpass, hact⟩
  · simp [hact, Deed.stalled?] at h
  · generalize f.act files w = done at hact h ⊢
    cases hact with
    | failed e =>
      obtain rfl := Option.some.inj h
      exact ⟨s, hpass, rfl, .inl rfl⟩
    | unresolved hresolve =>
      obtain rfl := Option.some.inj h
      rw [hpass.program] at hresolve
      exact ⟨_, hpass, rfl, Library.gainsFor_of_resolve hresolve⟩
    | called hresolve =>
      obtain rfl := Option.some.inj h
      rw [hpass.program] at hresolve
      exact ⟨_, hpass, rfl, Library.gainsFor_of_resolve hresolve⟩
    | printed | stored | entered | skipped | left | asked => simp [Deed.stalled?] at h

namespace Machine

theorem stalled_of_settle {limits : Limits} {below : List Frame} {done : Deed × World} {e : Error}
    {next : Machine} (h : settle limits below done = (.error e, next)) :
    ∃ g, done.1.stalled? = some g ∧ next = running limits (g :: below) done.2 := by
  obtain ⟨deed, w⟩ := done
  cases deed with
  | proceed f | finish | wait f name => simp [settle] at h
  | fail f cause => exact ⟨f, rfl, (Prod.mk.inj h).2.symm⟩
  | call f program function args =>
    simp only [settle] at h
    split at h
    · simp at h
    · split at h
      · exact ⟨f, rfl, (Prod.mk.inj h).2.symm⟩
      · simp at h

theorem upcoming_eq_head? {m : Machine} {f : Frame} {below : List Frame}
    (hwaiting : m.waiting = none) (hframes : m.frames = f :: below) :
    m.upcoming = f.remaining.head? := by
  unfold upcoming
  simp only [hwaiting, hframes]
  cases hnext : Cursor.next? f.function.body f.cursor with
  | none =>
    have hnil : f.remaining = [] := Cursor.remaining_eq_nil_of_next? hnext
    simp [hnil]
  | some read =>
    obtain ⟨s, moved⟩ := read
    have hcons : f.remaining = s :: _ := Cursor.remaining_of_next? hnext
    simp [hcons]

theorem step_error {m next : Machine} {files : FileSystem} {e : Error}
    (h : m.step files = (.error e, next)) :
    m.waiting = none ∧ ∃ f below s g, m.frames = f :: below ∧ f.Passes s g ∧
      next = { m with frames := g :: below, library := next.library } ∧
      m.library.GainsFor files f s next.library ∧
      m.upcoming = some s ∧ m.happenings next = [.began s] := by
  rcases m.step_cases files with ⟨name, -, hstep⟩ | ⟨-, -, hstep⟩ | ⟨f, below, hm, hstep⟩
  · simp [hstep] at h
  · simp [hstep] at h
  · have hwaiting : m.waiting = none := by rw [hm]; rfl
    have hframes : m.frames = f :: below := by rw [hm]; rfl
    rw [hstep] at h
    obtain ⟨g, hstalled, rfl⟩ := stalled_of_settle h
    obtain ⟨s, hpass, hworld, hgains⟩ := Frame.act_stalled hstalled
    have hupcoming : m.upcoming = some s := by
      rw [upcoming_eq_head? hwaiting hframes, hpass.remaining]
      rfl
    refine ⟨hwaiting, f, below, s, g, hframes, hpass, ?_, hgains, hupcoming, ?_⟩
    · rw [hworld, hwaiting]
      rfl
    · apply happenings_of_silent hupcoming
      rw [hworld]
      rfl

end Machine

/-! ## Runs that fail -/

def Reply.failed : Reply → Bool
  | .stepped (.error _) => true
  | .provided (.error _) => true
  | _ => false

namespace Machine

theorem moves_of_run {files : FileSystem} {limits : Limits} {frames : List Frame} {w : World}
    {fuel : Nat} {out : Outcome}
    (h : (running limits frames w).runUntilSuspended files fuel = some out) :
    ∃ schedule frames' w',
      (∀ reply ∈ ((running limits frames w).moves schedule).1, reply.failed = false) ∧
      ((running limits frames w).moves schedule).2 = running limits frames' w' ∧
      (running limits frames' w').step files = out ∧ out.1 ≠ .ok .running := by
  induction fuel generalizing frames w with
  | zero => simp [runUntilSuspended] at h
  | succ fuel ih =>
    by_cases hstop : ((running limits frames w).step files).1 = .ok .running
    · obtain ⟨frames', w', hstep⟩ := step_of_running hstop
      rw [runUntilSuspended_of_step hstep] at h
      obtain ⟨schedule, frames'', w'', hreplies, hmoves, hlast, hout⟩ := ih h
      refine ⟨.step files :: schedule, frames'', w'', ?_, ?_, hlast, hout⟩
      · rw [moves, move, hstep]
        exact List.forall_mem_cons.mpr ⟨rfl, hreplies⟩
      · rw [moves, move, hstep]
        exact hmoves
    · rw [runUntilSuspended_of_stop rfl hstop] at h
      obtain rfl := Option.some.inj h
      exact ⟨[], frames, w, by simp [moves], rfl, rfl, hstop⟩

theorem moves_of_answering {files : FileSystem} {limits : Limits} {frames : List Frame} {w : World}
    {fuel : Nat} {answers : List Value} {s : Session} {e : Error}
    (h : (running limits frames w).runAnswering files fuel answers = some s)
    (he : s.result = .error e) :
    ∃ schedule, (∀ reply ∈ ((running limits frames w).moves schedule).1, reply.failed = false) ∧
      ((running limits frames w).moves schedule).2.step files = (.error e, s.machine) := by
  induction fuel generalizing frames w answers s with
  | zero => simp [runAnswering] at h
  | succ fuel ih =>
    rw [runAnswering] at h
    cases hrun : (running limits frames w).runUntilSuspended files fuel with
    | none => simp [hrun] at h
    | some out =>
      obtain ⟨result, stopped⟩ := out
      obtain ⟨early, frames', w', hreplies, hmoves, hlast, hrunning⟩ := moves_of_run hrun
      rw [hrun] at h
      cases result with
      | error cause =>
        obtain rfl := Option.some.inj h
        obtain rfl := Except.error.inj he
        refine ⟨early, hreplies, ?_⟩
        rw [hmoves]
        exact hlast
      | ok progress =>
        cases progress with
        | running => exact absurd rfl hrunning
        | done =>
          obtain rfl := Option.some.inj h
          simp at he
        | suspended name =>
          obtain ⟨f, below, w'', rfl⟩ := step_of_suspended hlast
          have hprovide : (paused limits (f :: below) w'' name).provide (answers.headD .null) =
              .ok (running limits (f.set name (answers.headD .null) :: below) w'') := rfl
          simp only [hprovide] at h
          obtain ⟨rest, hrest, rfl⟩ := Option.map_eq_some_iff.mp h
          obtain ⟨late, hlate, hfail⟩ := ih hrest he
          -- the step that asks and the answer come between the two stretches
          refine ⟨early ++ .step files :: .provide (answers.headD .null) :: late, ?_, ?_⟩
          · rw [moves_append, hmoves]
            simp only [moves, move, hlast, hprovide]
            rw [List.forall_mem_append, List.forall_mem_cons, List.forall_mem_cons]
            exact ⟨hreplies, rfl, rfl, hlate⟩
          · rw [moves_append, hmoves]
            simp only [moves, move, hlast, hprovide]
            exact hfail

theorem values_asked (seen : List Happening) (name : String) :
    ((seen ++ [Happening.event (.asked name)]).filterMap Happening.event?).filterMap Event.value? =
      (seen.filterMap Happening.event?).filterMap Event.value? := by
  rw [List.filterMap_append, List.filterMap_append]
  exact List.append_nil _

theorem printed_append_since {m next : Machine} (h : m.printed.toList <+: next.printed.toList) :
    m.printed.toList ++ (next.printedSince m.printed.size).filterMap Event.value? =
      next.printed.toList := by
  obtain ⟨rest, hrest⟩ := h
  have hdrop : next.printed.toList.drop m.printed.size = rest := by
    rw [← hrest, ← Array.length_toList, List.drop_left]
  rw [printedSince, hdrop, ← hrest, List.filterMap_map]
  simp [Function.comp_def, Event.value?]

theorem provide_printed {m resumed : Machine} {v : Value} (h : m.provide v = .ok resumed) :
    resumed.printed = m.printed := by
  unfold provide at h
  split at h
  · rename_i f below hframes
    obtain rfl := Except.ok.inj h
    simp [store, hframes]
  · simp at h

theorem turn_cases (m : Machine) (files : FileSystem) (answers : List Value) :
    ∃ seen, m.upcoming.toList.map .began <+: seen ∧
      ((∃ (result : Except Error Unit) (w : World),
          m.printed.toList ++ (seen.filterMap Happening.event?).filterMap Event.value? =
            w.printed.toList ∧
          ∀ n, m.history files (n + 1) answers = ⟨seen, some (result, w)⟩) ∨
        ∃ (next : Machine) (rest : List Value),
          m.printed.toList ++ (seen.filterMap Happening.event?).filterMap Event.value? =
            next.printed.toList ∧
          ∀ n, m.history files (n + 1) answers = (next.history files n rest).after seen) := by
  obtain ⟨⟨reply, next⟩, hstep⟩ : ∃ out, m.step files = out := ⟨_, rfl⟩
  have hbegan : m.upcoming.toList.map .began <+: m.happenings next := List.prefix_append ..
  have hseen := printed_append_since (step_printed hstep)
  rw [← events_happenings] at hseen
  have hstop : ∀ (hrunning : reply ≠ .ok .running) (hwait : ∀ name, reply ≠ .ok (.suspended name)),
      ∀ n, m.history files (n + 1) answers =
        ⟨m.happenings next, some (conclude reply, next.world)⟩ :=
    fun hrunning hwait n => history_of_stop hstep hrunning hwait n answers
  cases reply with
  | error e => exact ⟨_, hbegan, .inl ⟨_, _, hseen, hstop (by simp) (by simp)⟩⟩
  | ok progress =>
    cases progress with
    | done => exact ⟨_, hbegan, .inl ⟨_, _, hseen, hstop (by simp) (by simp)⟩⟩
    | running =>
      exact ⟨_, hbegan, .inr ⟨next, answers, hseen, fun n => history_of_running hstep n answers⟩⟩
    | suspended name =>
      have hasked := hbegan.trans (List.prefix_append _ [.event (.asked name)])
      rw [← values_asked _ name] at hseen
      cases hprovide : next.provide (answers.headD .null) with
      | error e => exact ⟨_, hasked, .inl ⟨_, _, hseen, history_of_refused hstep hprovide⟩⟩
      | ok resumed =>
        rw [← provide_printed hprovide] at hseen
        exact ⟨_, hasked, .inr ⟨resumed, answers.tail, hseen, history_of_suspended hstep hprovide⟩⟩

theorem history_printed {files : FileSystem} {m : Machine} {n : Nat} {answers : List Value}
    {result : Except Error Unit} {w : World}
    (h : (m.history files n answers).ended = some (result, w)) :
    m.printed.toList ++ (m.history files n answers).values = w.printed.toList := by
  induction n generalizing m answers with
  | zero => simp [history] at h
  | succ n ih =>
    obtain ⟨seen, -, ⟨reason, stopped, hprinted, hends⟩ | ⟨next, rest, hprinted, hgoes⟩⟩ :=
      m.turn_cases files answers
    · rw [hends] at h ⊢
      obtain ⟨-, rfl⟩ := Prod.mk.inj (Option.some.inj h)
      exact hprinted
    · rw [hgoes] at h ⊢
      rw [History.values_after, ← List.append_assoc, hprinted]
      exact ih h

end Machine

namespace Program

theorem printed_of_ends {p : Program} {files : FileSystem} {o : RunOptions} {d : Discipline}
    {r : Report} (h : p.Ends files o d r) :
    r.events.filterMap Machine.Event.value? = r.world.printed.toList := by
  obtain ⟨n, hn⟩ := (p.ends_iff_history files o d r).mp h
  obtain ⟨hended, hevents⟩ := History.report?_eq_some_iff.mp hn
  rw [hevents]
  unfold history at hended ⊢
  cases hf : p.find? o.entry with
  | none =>
    simp only [hf, Option.some.injEq, Prod.mk.injEq] at hended
    simp [← hended.2, RunOptions.world]
  | some f =>
    simp only [hf] at hended ⊢
    exact Machine.history_printed hended

theorem moves_of_failure {p : Program} {files : FileSystem} {fuel : Nat} {o : RunOptions}
    {d : Discipline} {session : Machine.Session} {e : Error}
    (h : p.run files fuel o d = .ok (some session)) (he : session.result = .error e) :
    ∃ m schedule, p.machine o d.input = .ok m ∧
      (∀ reply ∈ (m.moves schedule).1, reply.failed = false) ∧
      (m.moves schedule).2.step files = (.error e, session.machine) := by
  cases hf : p.find? o.entry with
  | none => cases d <;> simp [run, stream, machine, Machine.start, hf, bind, Except.bind] at h
  | some f =>
    obtain ⟨hmachine, hrun⟩ := run_of_find? hf files fuel d
    rw [hrun] at h
    have h := Except.ok.inj h
    refine ⟨p.initial f o d, ?_⟩
    cases d with
    | answering answers =>
      obtain ⟨schedule, hreplies, hfail⟩ := Machine.moves_of_answering h he
      exact ⟨schedule, hmachine, hreplies, hfail⟩
    | buffered inputs =>
      obtain ⟨⟨result, stopped⟩, hdone, rfl⟩ := Option.map_eq_some_iff.mp h
      have hinput : (o.world (.buffered inputs)).input = .buffered inputs := rfl
      obtain ⟨progress, hprogress, hresult, hwait⟩ := runUntilDone_eq_of_buffered hinput hdone
      obtain ⟨schedule, frames, w, hreplies, hmoves, hlast, -⟩ := Machine.moves_of_run hprogress
      obtain rfl : progress = .error e := by
        cases progress with
        | error cause =>
          obtain rfl : Except.error cause = result := hresult
          exact congrArg Except.error (Except.error.inj he)
        | ok q =>
          obtain rfl : Except.ok () = result := hresult
          simp at he
      refine ⟨schedule, hmachine, hreplies, ?_⟩
      rw [initial, hmoves]
      exact hlast

end Program

namespace Machine

/-- A step that fails is undone but for the cursor. Whatever moves led there, the innermost call has
passed the statement that failed, a program that the statement loaded stays loaded, and all else is
as it was. The call stands where it would stand had the statement been a guard that does not hold,
and goes on with what comes next. So a run that fails has printed exactly what was printed before
the statement that failed. -/
theorem failure_atomic (p : Program) (o : RunOptions) :
    (∀ input m, p.machine o input = .ok m → ∀ schedule files e next,
      let reached := (m.moves schedule).2
      reached.step files = (.error e, next) →
      ((∃ cause, e = .evaluation cause) ∨ e.OfLookup ∨
        ∃ function limit, e = .callDepthExceeded function limit) ∧
      ∃ f below s cursor, reached.frames = f :: below ∧
        Cursor.next? f.function.body f.cursor = some (s, cursor) ∧
        next = { reached with
          frames := { f with cursor := cursor } :: below, library := next.library } ∧
        reached.happenings next = [.began s] ∧
        reached.library.GainsFor files f s next.library ∧
        (∀ test body v, f.eval test = .ok v → v.isTruthy = false →
          let skipping := f.replaceNext (.guard test body)
          { reached with frames := skipping :: below }.step files =
              (.ok .running,
                { reached with frames := { skipping with cursor := cursor } :: below }) ∧
            Frame.remaining { skipping with cursor := cursor } =
              Frame.remaining { f with cursor := cursor }) ∧
        f.remaining = s :: Frame.remaining { f with cursor := cursor } ∧
        next.upcoming = (Frame.remaining { f with cursor := cursor }).head?) ∧
    ∀ files fuel d session e, p.run files fuel o d = .ok (some session) →
      session.result = .error e →
      ∃ m schedule, p.machine o d.input = .ok m ∧
        (∀ reply ∈ (m.moves schedule).1, reply.failed = false) ∧
        (m.moves schedule).2.step files = (.error e, session.machine) ∧
        session.machine.printed = (m.moves schedule).2.printed ∧
        session.events.filterMap Event.value? = (m.moves schedule).2.printed.toList := by
  constructor
  · intro input m hm schedule files e next reached hfail
    have hkind := step_error_kind (congrArg Prod.fst hfail)
    obtain ⟨hwaiting, f, below, s, g, hframes, hpass, hnext, hgains, -, hbegan⟩ := step_error hfail
    have hg := hpass.eq
    refine ⟨hkind, f, below, s, g.cursor, hframes, hpass.next, ?_, hbegan, hgains, ?_, ?_, ?_⟩
    · rw [← hg]
      exact hnext
    · intro test body v hv hfalse skipping
      constructor
      · rw [setFrames_eq_running hwaiting, setFrames_eq_running hwaiting, step_running,
          Frame.act_skip hpass.next hv hfalse]
        rfl
      · exact (Cursor.next?_replaceNext hpass.next (.guard test body)).2
    · rw [← hg]
      exact hpass.remaining
    · rw [← hg, hnext]
      exact upcoming_eq_head? hwaiting rfl
  · intro files fuel d session e hrun he
    obtain ⟨m, schedule, hm, hreplies, hfail⟩ := Program.moves_of_failure hrun he
    obtain ⟨-, f, below, s, g, -, -, hnext, -⟩ := step_error hfail
    have hprinted : session.machine.printed = (m.moves schedule).2.printed := by rw [hnext]
    have hends : p.Ends files o d session.report := ⟨fuel, by rw [Program.report, hrun]; rfl⟩
    refine ⟨m, schedule, hm, hreplies, hfail, hprinted, ?_⟩
    rw [← hprinted]
    exact Program.printed_of_ends hends

theorem failure_atomic_argument :
    let p : Program := ⟨"", [⟨"main", [], [.print (.str "a"), .guard (.bool true)
      [.call "f" none [.var "x", .member (.var "y") "length"]], .print (.str "b")]⟩, ⟨"f", [], []⟩],
      by decide⟩
    let e : Error := .evaluation (.propertyOfNothing "length" "undefined")
    (∃ m next f below cursor, p.machine {} (.buffered []) = .ok m ∧
      (m.moves [.step .empty, .step .empty]).2.step .empty = (.error e, next) ∧
      (m.moves [.step .empty, .step .empty]).2.frames = f :: below ∧
      next.frames = { f with cursor := cursor } :: below ∧ cursor = [2, 1] ∧
      next.upcoming = some (.print (.str "b"))) ∧
    ∃ session m schedule, p.run .empty 9 {} (.buffered []) = .ok (some session) ∧
      session.result = .error e ∧ p.machine {} (.buffered []) = .ok m ∧
      (m.moves schedule).2.step .empty = (.error e, session.machine) ∧
      session.machine.printed = (m.moves schedule).2.printed ∧
      session.machine.printed = #[.str "a"] := by
  intro p e
  obtain ⟨hsteps, hruns⟩ := failure_atomic p {}
  constructor
  · obtain ⟨m, hm⟩ : ∃ m, p.machine {} (.buffered []) = .ok m := ⟨_, rfl⟩
    obtain ⟨next, hfail, hcursor, hupcoming⟩ :
        ∃ next, (m.moves [.step .empty, .step .empty]).2.step .empty = (.error e, next) ∧
          next.frames.head?.map Frame.cursor = some [2, 1] ∧
          next.upcoming = some (.print (.str "b")) := by
      obtain rfl := Except.ok.inj hm
      exact ⟨_, rfl, rfl, rfl⟩
    obtain ⟨-, f, below, s, cursor, hframes, -, hnext, -⟩ := hsteps _ m hm _ _ _ next hfail
    have hleft : next.frames = { f with cursor := cursor } :: below := by rw [hnext]
    rw [hleft] at hcursor
    exact ⟨m, next, f, below, cursor, hm, hfail, hframes, hleft, Option.some.inj hcursor, hupcoming⟩
  · obtain ⟨session, hrun, he, hprinted⟩ :
        ∃ session, p.run .empty 9 {} (.buffered []) = .ok (some session) ∧
          session.result = .error e ∧ session.machine.printed = #[.str "a"] := ⟨_, rfl, rfl, rfl⟩
    obtain ⟨m, schedule, hm, -, hfail, hkept, -⟩ := hruns _ _ _ session e hrun he
    exact ⟨session, m, schedule, hrun, he, hm, hfail, hkept, hprinted⟩

end Machine

end Runbook

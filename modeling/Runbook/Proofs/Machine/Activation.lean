import Runbook.Machine.Run
import Runbook.Proofs.Machine.Remaining

/-!
# A step of the machine, taken apart

What the innermost call does depends on that call and on the world around the stack only; the
stack and the limits then decide what becomes of it. Every fact about steps follows from these two
halves.
-/

namespace Runbook

/-- What the calls of a run share: what was printed, the input and the loaded programs. -/
structure World where
  printed : Array Value
  input : Input
  library : Library

def Machine.world (m : Machine) : World := ⟨m.printed, m.input, m.library⟩

def Library.resolve (l : Library) (files : FileSystem) (program : Program) (function : String)
    (file : Option String) : Except Error (Program × Function) × Library :=
  match file with
  | none =>
    match program.find? function with
    | none => (.error (.unknownFunction function), l)
    | some f => (.ok (program, f), l)
  | some path =>
    match l.load files program.baseDir path with
    | .error e => (.error e, l)
    | .ok loaded =>
      match loaded.program.find? function with
      | none =>
        (.error (.unknownExternalFunction function (Path.join program.baseDir path)), loaded.library)
      | some f => (.ok (loaded.program, f), loaded.library)

def assigned (op : Option UpdateOp) (current new : Value) : Value :=
  match op with
  | none => new
  | some op => op.binary.apply (Machine.updateBase current new) new

/-- What the innermost call does in a step. -/
inductive Deed where
  | proceed (f : Frame)
  | finish
  | wait (f : Frame) (name : String)
  | call (f : Frame) (program : Program) (function : Function) (args : List Value)
  | fail (f : Frame) (e : Error)

namespace Frame

/-- What a statement does in a call that has just passed it, and the world then. -/
def perform (files : FileSystem) (f : Frame) (w : World) : Statement → Deed × World
  | .print e =>
    match f.eval e with
    | .error err => (.fail f (.evaluation err), w)
    | .ok v => (.proceed f, { w with printed := w.printed.push v })
  | .assign name op value =>
    match f.eval value with
    | .error err => (.fail f (.evaluation err), w)
    | .ok v => (.proceed (f.set name (assigned op (f.get name) v)), w)
  | .guard test _ =>
    match f.eval test with
    | .error err => (.fail f (.evaluation err), w)
    | .ok v => (.proceed (if v.isTruthy then f.enter else f), w)
  | .leave => (.finish, w)
  | .ask name =>
    match w.input with
    | .buffered values =>
      (.proceed (f.set name (values.headD .null)), { w with input := .buffered values.tail })
    | .interactive => (.wait f name, w)
  | .call function file args =>
    match args.mapM f.eval with
    | .error err => (.fail f (.evaluation err), w)
    | .ok values =>
      match w.library.resolve files f.program function file with
      | (.error e, library) => (.fail f e, { w with library := library })
      | (.ok (program, g), library) => (.call f program g values, { w with library := library })

def act (files : FileSystem) (f : Frame) (w : World) : Deed × World :=
  match Cursor.next? f.function.body f.cursor with
  | none => (.finish, w)
  | some (s, cursor) => { f with cursor := cursor }.perform files w s

end Frame

namespace Machine

def running (limits : Limits) (frames : List Frame) (w : World) : Machine where
  frames := frames
  printed := w.printed
  limits := limits
  input := w.input
  library := w.library

@[simp] theorem running_inj {limits : Limits} {a b : List Frame} {v w : World} :
    running limits a v = running limits b w ↔ a = b ∧ v = w := by
  obtain ⟨printed, input, library⟩ := v
  obtain ⟨printed', input', library'⟩ := w
  simp [running]

def paused (limits : Limits) (frames : List Frame) (w : World) (name : String) : Machine :=
  { running limits frames w with waiting := some name }

/-- What the stack below makes of a deed of the innermost call. -/
def settle (limits : Limits) (below : List Frame) : Deed × World → Outcome
  | (.proceed f, w) => (.ok .running, running limits (f :: below) w)
  | (.finish, w) => (.ok .running, running limits below w)
  | (.wait f name, w) => (.ok (.suspended name), paused limits (f :: below) w name)
  | (.call f program function args, w) =>
    let callee := Frame.start program function args
    if f.atTail && limits.tailCalls then (.ok .running, running limits (callee :: below) w)
    else if limits.maxCallDepth ≤ below.length + 1 then
      (.error (.callDepthExceeded function.name limits.maxCallDepth),
        running limits (f :: below) w)
    else (.ok .running, running limits (callee :: f :: below) w)
  | (.fail f e, w) => (.error e, running limits (f :: below) w)

theorem settle_cases (limits : Limits) (below : List Frame) (done : Deed × World) :
    (∃ frames, settle limits below done = (.ok .running, running limits frames done.2)) ∨
      (∃ f name, done.1 = .wait f name ∧ settle limits below done =
        (.ok (.suspended name), paused limits (f :: below) done.2 name)) ∨
      ∃ e f, settle limits below done = (.error e, running limits (f :: below) done.2) := by
  obtain ⟨deed, w⟩ := done
  cases deed with
  | proceed f => exact .inl ⟨_, rfl⟩
  | finish => exact .inl ⟨_, rfl⟩
  | wait f name => exact .inr (.inl ⟨f, name, rfl, rfl⟩)
  | fail f e => exact .inr (.inr ⟨e, f, rfl⟩)
  | call f program function args =>
    rw [settle]
    split
    · exact .inl ⟨_, rfl⟩
    · split
      · exact .inr (.inr ⟨_, f, rfl⟩)
      · exact .inl ⟨_, rfl⟩

theorem pushCall_eq_settle (limits : Limits) (f : Frame) (below : List Frame) (w : World)
    (program : Program) (function : Function) (args : List Value) :
    (match (running limits (f :: below) w).pushCall (.start program function args)
        (if f.atTail && limits.tailCalls then .tail else .nested) with
      | .error e => ((.error e, running limits (f :: below) w) : Outcome)
      | .ok m => (.ok .running, m)) = settle limits below (.call f program function args, w) := by
  rw [settle]
  by_cases htail : (f.atTail && limits.tailCalls) = true
  · simp only [htail, if_true]
    rfl
  · simp only [htail, Bool.false_eq_true, if_false, pushCall]
    have hlength : (running limits (f :: below) w).frames.length = below.length + 1 := rfl
    have hlimit : (running limits (f :: below) w).limits = limits := rfl
    rw [hlength, hlimit]
    by_cases hdepth : limits.maxCallDepth ≤ below.length + 1
    · simp only [if_pos hdepth]
      rfl
    · simp only [if_neg hdepth]
      rfl

theorem call_eq_settle (files : FileSystem) (limits : Limits) (f : Frame) (below : List Frame)
    (w : World) (function : String) (file : Option String) (args : List Expr) :
    (running limits (f :: below) w).call files function file args f.atTail =
      settle limits below (f.perform files w (.call function file args)) := by
  rw [Frame.perform, call]
  simp only [running]
  cases hargs : args.mapM f.eval with
  | error err => rfl
  | ok values =>
    cases file with
    | none =>
      simp only [programOf, Library.resolve]
      cases hfind : f.program.find? function with
      | none => rfl
      | some g => exact pushCall_eq_settle limits f below w f.program g values
    | some path =>
      simp only [programOf, Library.resolve]
      cases hload : w.library.load files f.program.baseDir path with
      | error e => rfl
      | ok loaded =>
        cases hfind : loaded.program.find? function with
        | none => simp only [hfind]; rfl
        | some g =>
          simp only [hfind]
          exact pushCall_eq_settle limits f below { w with library := loaded.library }
            loaded.program g values

theorem execute_eq_settle (files : FileSystem) (limits : Limits) (f : Frame) (below : List Frame)
    (w : World) (s : Statement) :
    (running limits (f :: below) w).execute files s f.atTail =
      settle limits below (f.perform files w s) := by
  cases s with
  | print e =>
    simp only [execute, print, Frame.perform, running]
    cases f.eval e <;> rfl
  | assign name op value =>
    simp only [execute, assign, Frame.perform, running]
    cases f.eval value <;> rfl
  | call function file args => exact call_eq_settle files limits f below w function file args
  | guard test body =>
    simp only [execute, guard, Frame.perform, running]
    cases f.eval test with
    | error err => rfl
    | ok v => cases hv : v.isTruthy <;> simp [hv, settle, running, setFrame]
  | leave => rfl
  | ask name =>
    obtain ⟨printed, input, library⟩ := w
    cases input with
    | buffered values => cases values <;> rfl
    | interactive => rfl

theorem step_running (files : FileSystem) (limits : Limits) (f : Frame) (below : List Frame)
    (w : World) :
    (running limits (f :: below) w).step files = settle limits below (f.act files w) := by
  rw [Frame.act]
  cases hnext : Cursor.next? f.function.body f.cursor with
  | none => simp [step, running, hnext, settle]
  | some read =>
    obtain ⟨s, cursor⟩ := read
    have h := execute_eq_settle files limits { f with cursor := cursor } below w s
    simpa [step, running, hnext] using h

theorem step_running_nil (files : FileSystem) (limits : Limits) (w : World) :
    (running limits [] w).step files = (.ok .done, running limits [] w) := rfl

end Machine

/-! ## What a deed leaves to do -/

namespace Frame

/-- `g` is the call `f` after it has passed the statement `s`. -/
structure Passes (f : Frame) (s : Statement) (g : Frame) : Prop where
  next : Cursor.next? f.function.body f.cursor = some (s, g.cursor)
  remaining : f.remaining = s :: g.remaining
  program : g.program = f.program
  function : g.function = f.function
  vars : g.vars = f.vars
  enter : ∀ test body, s = .guard test body → g.enter.remaining = body ++ g.remaining

theorem act_cases (f : Frame) :
    (f.remaining = [] ∧ ∀ files w, f.act files w = (.finish, w)) ∨
      ∃ s g, f.Passes s g ∧ ∀ files w, f.act files w = g.perform files w s := by
  cases hnext : Cursor.next? f.function.body f.cursor with
  | none =>
    left
    exact ⟨Cursor.remaining_eq_nil_of_next? hnext, fun files w => by rw [act, hnext]⟩
  | some read =>
    obtain ⟨s, cursor⟩ := read
    right
    refine ⟨s, { f with cursor := cursor },
      ⟨hnext, Cursor.remaining_of_next? hnext, rfl, rfl, rfl, ?_⟩, ?_⟩
    · rintro test body rfl
      exact Cursor.remaining_enter hnext
    · intro files w
      rw [act, hnext]

theorem act_of_atTail {f : Frame} (h : f.atTail = true) (files : FileSystem) (w : World) :
    f.act files w = (.finish, w) := by
  rw [atTail, Cursor.atTail_iff] at h
  obtain ⟨-, hact⟩ | ⟨s, g, hpass, hact⟩ := f.act_cases
  · exact hact files w
  · have hcons : Cursor.remaining f.function.body f.cursor = s :: g.remaining := hpass.remaining
    obtain hnil | ⟨rest, hleave⟩ := h
    · simp [hnil] at hcons
    · obtain ⟨rfl, -⟩ : Statement.leave = s ∧ rest = g.remaining := by simpa [hleave] using hcons
      exact hact files w

theorem act_buffered {f : Frame} {w : World} {values : List Value}
    (h : w.input = .buffered values) (files : FileSystem) :
    (∀ g name, (f.act files w).1 ≠ .wait g name) ∧
      ∃ values', (f.act files w).2.input = .buffered values' := by
  obtain ⟨-, hact⟩ | ⟨s, g, -, hact⟩ := f.act_cases
  · rw [hact]
    exact ⟨by simp, values, h⟩
  · rw [hact]
    cases s with
    | print e | assign name op value | guard test body =>
      simp only [perform]
      split <;> exact ⟨by simp, values, h⟩
    | leave => exact ⟨by simp [perform], values, h⟩
    | ask name =>
      simp only [perform, h]
      exact ⟨by simp, values.tail, rfl⟩
    | call function file args =>
      simp only [perform]
      split
      · exact ⟨by simp, values, h⟩
      · split <;> exact ⟨by simp, values, h⟩

theorem count_lt_of_proceed {files : FileSystem} {f g : Frame} {w w' : World}
    (h : f.act files w = (.proceed g, w')) :
    Statement.countAll g.remaining < Statement.countAll f.remaining := by
  obtain ⟨-, hact⟩ | ⟨s, passed, hpass, hact⟩ := f.act_cases
  · simp [hact] at h
  · rw [hact] at h
    have hcount : Statement.countAll f.remaining = s.count + Statement.countAll passed.remaining := by
      rw [hpass.remaining, Statement.countAll]
    have hpos := s.count_pos
    cases s with
    | print e | assign name op value | ask name =>
      simp only [perform] at h
      split at h <;> simp only [Prod.mk.injEq, Deed.proceed.injEq, reduceCtorEq, false_and] at h
      obtain ⟨rfl, -⟩ := h
      change Statement.countAll passed.remaining < _
      omega
    | guard test body =>
      simp only [perform] at h
      split at h <;> simp only [Prod.mk.injEq, Deed.proceed.injEq, reduceCtorEq, false_and] at h
      obtain ⟨rfl, -⟩ := h
      rw [Statement.count] at hcount
      split
      · rw [hpass.enter test body rfl, Statement.countAll_append]
        omega
      · omega
    | leave => simp [perform] at h
    | call function file args =>
      simp only [perform] at h
      repeat' split at h
      all_goals simp at h

theorem count_lt_of_call {files : FileSystem} {f g : Frame} {w w' : World} {program : Program}
    {function : Function} {args : List Value}
    (h : f.act files w = (.call g program function args, w')) :
    Statement.countAll g.remaining < Statement.countAll f.remaining := by
  obtain ⟨-, hact⟩ | ⟨s, passed, hpass, hact⟩ := f.act_cases
  · simp [hact] at h
  · rw [hact] at h
    cases s with
    | call name file exprs =>
      have hg : passed = g := by
        simp only [perform] at h
        repeat' split at h
        all_goals simp at h
        exact h.1.1
      rw [← hg, hpass.remaining, Statement.countAll]
      simp [Statement.count]
    | print e | assign name op value | ask name | guard test body | leave =>
      simp only [perform] at h
      try split at h
      all_goals simp at h

end Frame

end Runbook

import Runbook.Proofs.Except
import Runbook.Proofs.Library.Loading
import Runbook.Proofs.Machine.Activation
import Runbook.Proofs.Machine.Position

/-!
# Machines driven from outside

A driver makes moves: it has the machine take a step or hands it a value. A move may fail, and the
driver goes on with the machine that is left. What holds at the start and is kept by each way to
move holds after any moves.
-/

namespace Runbook

/-- What a driver does with a machine. The files may be others at each step. -/
inductive Move where
  | step (files : FileSystem)
  | provide (v : Value)

inductive Reply where
  | stepped (result : Except Error Progress)
  | provided (result : Except Error Unit)

namespace Machine

def move (m : Machine) : Move → Reply × Machine
  | .step files => (.stepped (m.step files).1, (m.step files).2)
  | .provide v =>
    match m.provide v with
    | .ok resumed => (.provided (.ok ()), resumed)
    | .error e => (.provided (.error e), m)

def moves (m : Machine) : List Move → List Reply × Machine
  | [] => ([], m)
  | a :: rest => ((m.move a).1 :: ((m.move a).2.moves rest).1, ((m.move a).2.moves rest).2)

theorem moves_append (m : Machine) (first second : List Move) :
    m.moves (first ++ second) =
      ((m.moves first).1 ++ ((m.moves first).2.moves second).1,
        ((m.moves first).2.moves second).2) := by
  induction first generalizing m with
  | nil => rfl
  | cons a rest ih =>
    rw [List.cons_append, moves, ih, moves]
    rfl

theorem eq_running_or_paused (m : Machine) :
    m = running m.limits m.frames m.world ∨ ∃ name, m = paused m.limits m.frames m.world name := by
  obtain ⟨frames, waiting, printed, limits, input, library⟩ := m
  cases waiting with
  | none => exact .inl rfl
  | some name => exact .inr ⟨name, rfl⟩

theorem setFrames_eq_running {m : Machine} (h : m.waiting = none) (frames : List Frame) :
    { m with frames := frames } = running m.limits frames m.world := by
  rw [running, h]
  rfl

theorem step_paused (files : FileSystem) (limits : Limits) (frames : List Frame) (w : World)
    (name : String) :
    (paused limits frames w name).step files = (.ok (.suspended name), paused limits frames w name) :=
  rfl

theorem step_cases (m : Machine) (files : FileSystem) :
    (∃ name, m.waiting = some name ∧ m.step files = (.ok (.suspended name), m)) ∨
      (m.waiting = none ∧ m.frames = [] ∧ m.step files = (.ok .done, m)) ∨
      ∃ f below, m = running m.limits (f :: below) m.world ∧
        m.step files = settle m.limits below (f.act files m.world) := by
  rcases m.eq_running_or_paused with hm | ⟨name, hm⟩
  · have hwaiting : m.waiting = none := by rw [hm]; rfl
    cases hframes : m.frames with
    | nil =>
      have hstep := step_running_nil files m.limits m.world
      rw [← hframes, ← hm] at hstep
      exact .inr (.inl ⟨hwaiting, rfl, hstep⟩)
    | cons f below =>
      rw [hframes] at hm
      have hstep := step_running files m.limits f below m.world
      rw [← hm] at hstep
      exact .inr (.inr ⟨f, below, hm, hstep⟩)
  · have hstep := step_paused files m.limits m.frames m.world name
    rw [← hm] at hstep
    exact .inl ⟨name, by rw [hm]; rfl, hstep⟩

theorem move_cases (m : Machine) (a : Move) :
    (m.move a).2 = m ∨
      (∃ files limits f below w, a = .step files ∧ m = running limits (f :: below) w ∧
        (m.move a).2 = (settle limits below (f.act files w)).2) ∨
      ∃ v limits f below w name, a = .provide v ∧ m = paused limits (f :: below) w name ∧
        (m.move a).2 = running limits (f.set name v :: below) w := by
  rcases m.eq_running_or_paused with hm | ⟨name, hm⟩
  · cases hframes : m.frames with
    | nil =>
      rw [hm, hframes]
      cases a with
      | step files => exact .inl rfl
      | provide v => exact .inl rfl
    | cons f below =>
      rw [hm, hframes]
      cases a with
      | step files =>
        refine .inr (.inl ⟨files, m.limits, f, below, m.world, rfl, rfl, ?_⟩)
        rw [← step_running]
        rfl
      | provide v => exact .inl rfl
  · cases hframes : m.frames with
    | nil =>
      rw [hm, hframes]
      cases a with
      | step files => exact .inl rfl
      | provide v => exact .inl rfl
    | cons f below =>
      rw [hm, hframes]
      cases a with
      | step files => exact .inl rfl
      | provide v => exact .inr (.inr ⟨v, m.limits, f, below, m.world, name, rfl, rfl, rfl⟩)

theorem moves_invariant {Inv : Machine → Prop} {met : FileSystem → Prop}
    (hstep : ∀ files limits f below w, met files → Inv (running limits (f :: below) w) →
      Inv (settle limits below (f.act files w)).2)
    (hprovide : ∀ limits f below w name v, Inv (paused limits (f :: below) w name) →
      Inv (running limits (f.set name v :: below) w))
    {m : Machine} (h : Inv m) {schedule : List Move}
    (hmet : ∀ files, .step files ∈ schedule → met files) : Inv (m.moves schedule).2 := by
  induction schedule generalizing m with
  | nil => exact h
  | cons a rest ih =>
    have hmove : Inv (m.move a).2 := by
      rcases m.move_cases a with hsame | ⟨files, limits, f, below, w, rfl, rfl, hmoved⟩ |
        ⟨v, limits, f, below, w, name, rfl, rfl, hmoved⟩
      · rwa [hsame]
      · rw [hmoved]
        exact hstep files limits f below w (hmet files (by simp)) h
      · rw [hmoved]
        exact hprovide limits f below w name v h
    exact ih hmove fun files hfiles => hmet files (List.mem_cons_of_mem a hfiles)

theorem running_of_machine {p : Program} {o : RunOptions} {input : Input} {m : Machine}
    (h : p.machine o input = .ok m) :
    ∃ f, p.find? o.entry = some f ∧
      m = running o.limits [.start p f o.args] ⟨#[], input, o.library⟩ := by
  obtain ⟨started, hstarted, hm⟩ := ok_of_bind h
  unfold start at hstarted
  split at hstarted
  · rename_i f hf
    obtain rfl := Except.ok.inj hstarted
    exact ⟨f, hf, (Except.ok.inj hm).symm⟩
  · simp at hstarted

/-! ## What is left of a step -/

theorem settle_world (limits : Limits) (below : List Frame) (done : Deed × World) :
    (settle limits below done).2.world = done.2 := by
  rcases settle_cases limits below done with ⟨frames, h⟩ | ⟨f, name, -, h⟩ | ⟨e, f, h⟩ <;>
    rw [h] <;> rfl

theorem settle_limits (limits : Limits) (below : List Frame) (done : Deed × World) :
    (settle limits below done).2.limits = limits := by
  rcases settle_cases limits below done with ⟨frames, h⟩ | ⟨f, name, -, h⟩ | ⟨e, f, h⟩ <;>
    rw [h] <;> rfl

theorem settle_waiting {limits : Limits} {below : List Frame} {done : Deed × World} {name : String}
    (h : (settle limits below done).2.waiting = some name) :
    ∃ f, done.1 = .wait f name ∧ (settle limits below done).2.frames = f :: below := by
  rcases settle_cases limits below done with ⟨frames, hgo⟩ | ⟨f, other, hdeed, hwait⟩ | ⟨e, f, hfail⟩
  · rw [hgo] at h
    simp [running] at h
  · rw [hwait] at h ⊢
    obtain rfl : other = name := by simpa [paused] using h
    exact ⟨f, hdeed, rfl⟩
  · rw [hfail] at h
    simp [running] at h

end Machine

def Deed.frames : Deed → List Frame
  | .proceed f => [f]
  | .finish => []
  | .wait f _ => [f]
  | .call f program function args => [.start program function args, f]
  | .fail f _ => [f]

theorem Machine.mem_settle_frames {limits : Limits} {below : List Frame} {done : Deed × World}
    {g : Frame} (h : g ∈ (settle limits below done).2.frames) : g ∈ done.1.frames ∨ g ∈ below := by
  obtain ⟨deed, w⟩ := done
  cases deed with
  | proceed f | wait f name | fail f e =>
    rcases List.mem_cons.mp h with rfl | h
    · exact .inl (List.mem_singleton_self _)
    · exact .inr h
  | finish => exact .inr h
  | call f program function args =>
    simp only [settle] at h
    split at h
    · rcases List.mem_cons.mp h with rfl | h
      · exact .inl (List.mem_cons_self ..)
      · exact .inr h
    · split at h
      · rcases List.mem_cons.mp h with rfl | h
        · exact .inl (by simp [Deed.frames])
        · exact .inr h
      · rcases List.mem_cons.mp h with rfl | h
        · exact .inl (List.mem_cons_self ..)
        · rcases List.mem_cons.mp h with rfl | h
          · exact .inl (by simp [Deed.frames])
          · exact .inr h

/-! ## What a statement can do -/

/-- The ways that performing a statement can turn out, for a call that has just passed it. -/
inductive Frame.Performed (files : FileSystem) (f : Frame) (w : World) :
    Statement → Deed × World → Prop where
  | printed {e : Expr} (v : Value) :
    Performed files f w (.print e) (.proceed f, { w with printed := w.printed.push v })
  | stored {s : Statement} {name : String} (hs : s.target? = some name) (v : Value) (input : Input) :
    Performed files f w s (.proceed (f.set name v), { w with input := input })
  | entered {test : Expr} {body : List Statement} :
    Performed files f w (.guard test body) (.proceed f.enter, w)
  | skipped {test : Expr} {body : List Statement} :
    Performed files f w (.guard test body) (.proceed f, w)
  | left : Performed files f w .leave (.finish, w)
  | asked {name : String} : Performed files f w (.ask name) (.wait f name, w)
  | failed {s : Statement} (e : EvalError) : Performed files f w s (.fail f (.evaluation e), w)
  | unresolved {function : String} {file : Option String} {args : List Expr} {e : Error}
    {library : Library}
    (h : w.library.resolve files f.program function file = (.error e, library)) :
    Performed files f w (.call function file args) (.fail f e, { w with library := library })
  | called {function : String} {file : Option String} {args : List Expr} {program : Program}
    {g : Function} {values : List Value} {library : Library}
    (h : w.library.resolve files f.program function file = (.ok (program, g), library)) :
    Performed files f w (.call function file args)
      (.call f program g values, { w with library := library })

theorem Frame.performed (files : FileSystem) (f : Frame) (w : World) (s : Statement) :
    f.Performed files w s (f.perform files w s) := by
  cases s with
  | print e =>
    simp only [perform]
    split
    · exact .failed _
    · exact .printed _
  | assign name op value =>
    simp only [perform]
    split
    · exact .failed _
    · exact .stored rfl _ w.input
  | guard test body =>
    simp only [perform]
    split
    · exact .failed _
    · split
      · exact .entered
      · exact .skipped
  | leave => exact .left
  | ask name =>
    simp only [perform]
    split
    · exact .stored rfl _ _
    · exact .asked
  | call function file args =>
    simp only [perform]
    split
    · exact .failed _
    · split
      · rename_i hresolve
        exact .unresolved hresolve
      · rename_i hresolve
        exact .called hresolve

theorem Frame.act_performed (files : FileSystem) (f : Frame) (w : World) :
    f.remaining = [] ∧ f.act files w = (.finish, w) ∨
      ∃ s g, f.Passes s g ∧ g.Performed files w s (f.act files w) := by
  rcases f.act_cases with ⟨hnil, hact⟩ | ⟨s, g, hpass, hact⟩
  · exact .inl ⟨hnil, hact files w⟩
  · refine .inr ⟨s, g, hpass, ?_⟩
    rw [hact]
    exact g.performed files w s

/-! ## When a call is made -/

namespace Frame

theorem perform_call_iff {files : FileSystem} {f g : Frame} {w : World} {program : Program}
    {callee : Function} {values : List Value} {function : String} {file : Option String}
    {args : List Expr} :
    (f.perform files w (.call function file args)).1 = .call g program callee values ↔
      f = g ∧ args.mapM f.eval = .ok values ∧
        (w.library.resolve files f.program function file).1 = .ok (program, callee) := by
  simp only [perform]
  cases args.mapM f.eval with
  | error err => simp
  | ok found =>
    obtain ⟨result, library⟩ := w.library.resolve files f.program function file
    cases result with
    | error e => simp
    | ok resolved =>
      obtain ⟨q, h⟩ := resolved
      simp only [Deed.call.injEq, Except.ok.injEq, Prod.mk.injEq]
      constructor
      · rintro ⟨hf, hq, hh, hfound⟩
        exact ⟨hf, hfound, hq, hh⟩
      · rintro ⟨hf, hfound, hq, hh⟩
        exact ⟨hf, hq, hh, hfound⟩

theorem act_call_iff {files : FileSystem} {f g : Frame} {w : World} {program : Program}
    {callee : Function} {values : List Value} :
    (f.act files w).1 = .call g program callee values ↔
      ∃ function file args,
        Cursor.next? f.function.body f.cursor = some (.call function file args, g.cursor) ∧
        g = { f with cursor := g.cursor } ∧ args.mapM f.eval = .ok values ∧
        (w.library.resolve files f.program function file).1 = .ok (program, callee) := by
  unfold act
  constructor
  · intro h
    cases hnext : Cursor.next? f.function.body f.cursor with
    | none => simp [hnext] at h
    | some read =>
      obtain ⟨s, cursor⟩ := read
      simp only [hnext] at h
      cases s with
      | call function file args =>
        obtain ⟨rfl, hvalues, hresolve⟩ := perform_call_iff.mp h
        exact ⟨function, file, args, rfl, rfl, hvalues, hresolve⟩
      | print e | assign name op value | guard test body | ask name =>
        simp only [perform] at h
        split at h <;> simp at h
      | leave => simp [perform] at h
  · rintro ⟨function, file, args, hnext, hg, hvalues, hresolve⟩
    simp only [hnext]
    exact perform_call_iff.mpr ⟨hg.symm, hvalues, hresolve⟩

end Frame

/-! ## Looking up functions -/

namespace Library

theorem resolve_ofLookup {l l' : Library} {files : FileSystem} {program : Program}
    {function : String} {file : Option String} {e : Error}
    (h : l.resolve files program function file = (.error e, l')) : e.OfLookup := by
  unfold resolve at h
  split at h
  · split at h
    · obtain rfl := Except.error.inj (Prod.mk.inj h).1
      exact .unknownFunction ..
    · simp at h
  · split at h
    · rename_i hload
      obtain rfl := Except.error.inj (Prod.mk.inj h).1
      exact loadPath_ofLookup hload
    · split at h
      · obtain rfl := Except.error.inj (Prod.mk.inj h).1
        exact .unknownExternalFunction ..
      · simp at h

theorem resolve_ok {l l' : Library} {files : FileSystem} {program q : Program} {function : String}
    {file : Option String} {g : Function}
    (h : l.resolve files program function file = (.ok (q, g), l')) :
    q.find? function = some g ∧
      (file = none ∧ q = program ∧ l' = l ∨
        ∃ path loaded, file = some path ∧
          l.loadPath files (Path.join program.baseDir path) = .ok loaded ∧
          loaded.program = q ∧ loaded.library = l') := by
  unfold resolve at h
  split at h
  · split at h
    · simp at h
    · rename_i hfind
      obtain ⟨⟨rfl, rfl⟩, rfl⟩ : (program = q ∧ _ = g) ∧ l = l' := by simpa using h
      exact ⟨hfind, .inl ⟨rfl, rfl, rfl⟩⟩
  · rename_i path
    split at h
    · simp at h
    · rename_i loaded hload
      split at h
      · simp at h
      · rename_i hfind
        obtain ⟨⟨rfl, rfl⟩, rfl⟩ : (loaded.program = q ∧ _ = g) ∧ loaded.library = l' := by
          simpa using h
        exact ⟨hfind, .inr ⟨path, loaded, rfl, hload, rfl, rfl⟩⟩

theorem resolve_error {l l' : Library} {files : FileSystem} {program : Program} {function : String}
    {file : Option String} {e : Error}
    (h : l.resolve files program function file = (.error e, l')) :
    l' = l ∨ ∃ path loaded, file = some path ∧
      l.loadPath files (Path.join program.baseDir path) = .ok loaded ∧ loaded.library = l' := by
  unfold resolve at h
  split at h
  · split at h
    · exact .inl (Prod.mk.inj h).2.symm
    · simp at h
  · rename_i path
    split at h
    · exact .inl (Prod.mk.inj h).2.symm
    · rename_i loaded hload
      split at h
      · exact .inr ⟨path, loaded, rfl, hload, (Prod.mk.inj h).2⟩
      · simp at h

theorem resolve_grows {l l' : Library} {files : FileSystem} {program : Program} {function : String}
    {file : Option String} {r : Except Error (Program × Function)}
    (h : l.resolve files program function file = (r, l')) : l.Grows l' := by
  cases r with
  | error e =>
    rcases resolve_error h with rfl | ⟨path, loaded, -, hload, rfl⟩
    · exact .refl l'
    · exact loadPath_grows hload
  | ok found =>
    rcases (resolve_ok h).2 with ⟨-, -, rfl⟩ | ⟨path, loaded, -, hload, -, rfl⟩
    · exact .refl l'
    · exact loadPath_grows hload

end Library

end Runbook

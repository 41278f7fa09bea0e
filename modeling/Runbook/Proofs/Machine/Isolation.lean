import Runbook.Proofs.Machine.Moves

/-!
# A call cannot tell its callers apart

What a machine does with its upper calls depends on how many calls are below them and on nothing
else about those, and it leaves those as they are.
-/

namespace Runbook

namespace Machine

def above (m : Machine) (below : List Frame) : Machine := { m with frames := m.frames ++ below }

theorem above_running (limits : Limits) (top below : List Frame) (w : World) :
    (running limits top w).above below = running limits (top ++ below) w := rfl

theorem frames_above (m : Machine) (below : List Frame) :
    (m.above below).frames = m.frames ++ below := rfl

theorem settle_above (limits : Limits) (rest : List Frame) (done : Deed × World) (height : Nat) :
    ∃ (result : Except Error Progress) (m : Machine), ∀ below : List Frame, below.length = height →
      settle limits (rest ++ below) done = (result, m.above below) := by
  obtain ⟨deed, w⟩ := done
  cases deed with
  | proceed f => exact ⟨_, running limits (f :: rest) w, fun _ _ => rfl⟩
  | finish => exact ⟨_, running limits rest w, fun _ _ => rfl⟩
  | wait f name => exact ⟨_, paused limits (f :: rest) w name, fun _ _ => rfl⟩
  | fail f e => exact ⟨_, running limits (f :: rest) w, fun _ _ => rfl⟩
  | call f program function args =>
    by_cases htail : (f.atTail && limits.tailCalls) = true
    · refine ⟨.ok .running, running limits (.start program function args :: rest) w, ?_⟩
      intro below _
      rw [settle, if_pos htail]
      rfl
    · -- the number of calls below decides whether there is room for one more
      by_cases hdepth : limits.maxCallDepth ≤ rest.length + height + 1
      · refine ⟨.error (.callDepthExceeded function.name limits.maxCallDepth),
          running limits (f :: rest) w, ?_⟩
        intro below hbelow
        have hfull : limits.maxCallDepth ≤ (rest ++ below).length + 1 := by
          rw [List.length_append, hbelow]
          exact hdepth
        rw [settle, if_neg htail, if_pos hfull]
        rfl
      · refine ⟨.ok .running, running limits (.start program function args :: f :: rest) w, ?_⟩
        intro below hbelow
        have hroom : ¬ limits.maxCallDepth ≤ (rest ++ below).length + 1 := by
          rw [List.length_append, hbelow]
          exact hdepth
        rw [settle, if_neg htail, if_neg hroom]
        rfl

theorem move_above {m : Machine} (h : m.frames ≠ []) (a : Move) (height : Nat) :
    ∃ (reply : Reply) (m' : Machine), ∀ below : List Frame, below.length = height →
      (m.above below).move a = (reply, m'.above below) := by
  obtain ⟨f, rest, hframes⟩ := List.exists_cons_of_ne_nil h
  rcases m.eq_running_or_paused with hm | ⟨name, hm⟩
  · rw [hframes] at hm
    cases a with
    | step files =>
      obtain ⟨result, m', hm'⟩ := settle_above m.limits rest (f.act files m.world) height
      refine ⟨.stepped result, m', ?_⟩
      intro below hbelow
      have hstep := step_running files m.limits f (rest ++ below) m.world
      rw [hm' below hbelow] at hstep
      rw [hm, above_running, List.cons_append, move, hstep]
    | provide v =>
      refine ⟨.provided (.error .unexpectedInput), m, ?_⟩
      intro below _
      rw [hm]
      rfl
  · rw [hframes] at hm
    cases a with
    | step files =>
      refine ⟨.stepped (.ok (.suspended name)), m, ?_⟩
      intro below _
      rw [hm]
      rfl
    | provide v =>
      refine ⟨.provided (.ok ()), running m.limits (f.set name v :: rest) m.world, ?_⟩
      intro below _
      rw [hm]
      rfl

theorem moves_above {m : Machine} {callers : List Frame} {schedule : List Move}
    (h : ∀ n < schedule.length,
      callers.length < ((m.above callers).moves (schedule.take n)).2.frames.length) :
    ∃ (replies : List Reply) (m' : Machine), ∀ below : List Frame, below.length = callers.length →
      (m.above below).moves schedule = (replies, m'.above below) := by
  induction schedule generalizing m with
  | nil => exact ⟨[], m, fun _ _ => rfl⟩
  | cons a rest ih =>
    have hown : m.frames ≠ [] := by
      intro hnil
      have hstart := h 0 (by simp)
      simp [moves, frames_above, hnil] at hstart
    obtain ⟨reply, m', hmove⟩ := move_above hown a callers.length
    have hrest : ∀ n < rest.length,
        callers.length < ((m'.above callers).moves (rest.take n)).2.frames.length := by
      intro n hn
      have hlater := h (n + 1) (by simpa using hn)
      rw [List.take_succ_cons, moves, hmove callers rfl] at hlater
      exact hlater
    obtain ⟨replies, m'', hmoves⟩ := ih hrest
    refine ⟨reply :: replies, m'', ?_⟩
    intro below hbelow
    rw [moves, hmove below hbelow, hmoves below hbelow]

/-- Two machines with as many calls in progress are the same in all but the calls below the upper
`k`. -/
structure Agree (k : Nat) (a b : Machine) : Prop where
  limits : a.limits = b.limits
  waiting : a.waiting = b.waiting
  printed : a.printed = b.printed
  input : a.input = b.input
  library : a.library = b.library
  height : a.frames.length = b.frames.length
  top : a.frames.take k = b.frames.take k

theorem Agree.exists_above {k : Nat} {a b : Machine} (h : Agree k a b) :
    ∃ m : Machine, m.above (a.frames.drop k) = a ∧ m.above (b.frames.drop k) = b := by
  refine ⟨{ a with frames := a.frames.take k }, ?_, ?_⟩
  · simp [above]
  · obtain ⟨frames, waiting, printed, limits, input, library⟩ := b
    simp only [above, h.limits, h.waiting, h.printed, h.input, h.library, h.top,
      List.take_append_drop]

theorem agree_above (m : Machine) {below below' : List Frame}
    (h : below.length = below'.length) : Agree m.frames.length (m.above below) (m.above below') where
  limits := rfl
  waiting := rfl
  printed := rfl
  input := rfl
  library := rfl
  height := by simp [frames_above, h]
  top := by simp [frames_above]

/-- Callers are out of reach. Take two machines that differ only in the calls below the upper `k`,
and drive both with the same moves, as long as some call above the lower ones is in progress. Both
reply the same to each move; at the end they print, have read and have loaded the same and agree on
all calls above the lower ones; and in each of them the lower calls are what they were at the start.
-/
theorem callers_isolated {k : Nat} {a b : Machine} (h : Agree k a b) (schedule : List Move)
    (hheight : ∀ n < schedule.length,
      a.frames.length - k < (a.moves (schedule.take n)).2.frames.length) :
    let lower := a.frames.length - k
    let a' := (a.moves schedule).2
    let b' := (b.moves schedule).2
    (a.moves schedule).1 = (b.moves schedule).1 ∧
    Agree (a'.frames.length - lower) a' b' ∧
    a'.frames.drop (a'.frames.length - lower) = a.frames.drop k ∧
    b'.frames.drop (b'.frames.length - lower) = b.frames.drop k := by
  intro lower a' b'
  obtain ⟨m, ha, hb⟩ := h.exists_above
  have hlower : (a.frames.drop k).length = lower := List.length_drop
  have hlower' : (b.frames.drop k).length = lower := by
    rw [List.length_drop, ← h.height]
  have hown : ∀ n < schedule.length, (a.frames.drop k).length <
      ((m.above (a.frames.drop k)).moves (schedule.take n)).2.frames.length := by
    rw [ha, hlower]
    exact hheight
  obtain ⟨replies, m', hmoves⟩ := moves_above hown
  have hmoved := hmoves (a.frames.drop k) rfl
  have hmoved' := hmoves (b.frames.drop k) (by rw [hlower, hlower'])
  rw [ha] at hmoved
  rw [hb] at hmoved'
  have ha' : a' = m'.above (a.frames.drop k) := congrArg Prod.snd hmoved
  have hb' : b' = m'.above (b.frames.drop k) := congrArg Prod.snd hmoved'
  have hheight' : a'.frames.length - lower = m'.frames.length := by
    rw [ha', frames_above, List.length_append, hlower, Nat.add_sub_cancel]
  have hheight'' : b'.frames.length - lower = m'.frames.length := by
    rw [hb', frames_above, List.length_append, hlower', Nat.add_sub_cancel]
  refine ⟨by rw [hmoved, hmoved'], ?_, ?_, ?_⟩
  · rw [hheight', ha', hb']
    exact agree_above m' (by rw [hlower, hlower'])
  · rw [hheight', ha', frames_above]
    exact List.drop_left
  · rw [hheight'', hb', frames_above]
    exact List.drop_left

theorem callers_isolated_secret :
    let get : Function := ⟨"get", [], [.ask "x", .assign "y" none (.var "secret"),
      .call "get" none [], .print (.var "y")]⟩
    let p : Program := ⟨"", [get], by simp⟩
    let caller (secret : Value) : Frame := ⟨p, get, ⟨[("secret", secret)], by simp⟩, [3]⟩
    let start (secret : Value) : Machine :=
      { frames := [.start p get [], caller secret], input := .interactive }
    let files : FileSystem := ⟨fun _ => .error .notFound, fun _ => .error .notFound⟩
    let schedule : List Move :=
      [.step files, .provide (.str "v"), .step files, .step files, .provide .null, .step files]
    let a' := ((start .null).moves schedule).2
    let b' := ((start (.bool true)).moves schedule).2
    Agree 1 (start .null) (start (.bool true)) ∧
    (∀ n < schedule.length, 1 < ((start .null).moves (schedule.take n)).2.frames.length) ∧
    a'.frames.length = 3 ∧ a'.waiting = some "x" ∧
    ((start .null).moves schedule).1 = ((start (.bool true)).moves schedule).1 ∧
    Agree (a'.frames.length - 1) a' b' ∧
    a'.frames.drop (a'.frames.length - 1) = [caller .null] ∧
    b'.frames.drop (b'.frames.length - 1) = [caller (.bool true)] := by
  intro get p caller start files schedule a' b'
  have hagree : Agree 1 (start .null) (start (.bool true)) :=
    ⟨rfl, rfl, rfl, rfl, rfl, rfl, rfl⟩
  have hheight : ∀ n < schedule.length,
      1 < ((start .null).moves (schedule.take n)).2.frames.length := by decide +kernel
  have hsame := callers_isolated hagree schedule hheight
  exact ⟨hagree, hheight, by decide +kernel, by decide +kernel, hsame⟩

end Machine

end Runbook

import Runbook.Proofs.Machine.Activation

/-!
# Structured execution

What a program means, by recursion on its statements and without a stack. A block runs its
statements in order and either completes or breaks off; a guard runs its body in place; a call
runs a function from its first statement to its end and then goes on after the call. Only calls
can go on for ever, so only they are cut off at a depth.
-/

namespace Runbook

abbrev Env := String → Value

namespace Env

def empty : Env := fun _ => .undefined

def set (env : Env) (name : String) (v : Value) : Env :=
  fun other => if other = name then v else env other

/-- Fresh variables with the arguments bound to the parameters by position. A missing argument is
undefined, an extra one is ignored. -/
def ofArgs (params : List String) (args : List Value) : Env :=
  (params.zip (args ++ List.replicate (params.length - args.length) .undefined)).foldl
    (fun env (param, v) => env.set param v) empty

end Env

inductive Ending where
  | completed (env : Env)
  /-- The call that it belongs to is over. -/
  | broke

/-- What calling a function with arguments comes to, and the world then. None if it is not known. -/
abbrev Calls := Program → Function → List Value → World → Option (Except Error Unit × World)

mutual

def Statement.exec (files : FileSystem) (calls : Calls) (program : Program) :
    Statement → Env → World → Option (Except Error Ending × World)
  | .print e, env, w =>
    match e.eval env with
    | .error err => some (.error (.evaluation err), w)
    | .ok v => some (.ok (.completed env), { w with printed := w.printed.push v })
  | .assign name op value, env, w =>
    match value.eval env with
    | .error err => some (.error (.evaluation err), w)
    | .ok v => some (.ok (.completed (env.set name (assigned op (env name) v))), w)
  | .guard test body, env, w =>
    match test.eval env with
    | .error err => some (.error (.evaluation err), w)
    | .ok v =>
      if v.isTruthy then Statement.execAll files calls program body env w
      else some (.ok (.completed env), w)
  | .leave, _, w => some (.ok .broke, w)
  | .ask name, env, w =>
    match w.input with
    | .buffered [] => some (.ok (.completed (env.set name .null)), w)
    | .buffered (v :: values) =>
      some (.ok (.completed (env.set name v)), { w with input := .buffered values })
    | .interactive => none
  | .call function file args, env, w =>
    match args.mapM (·.eval env) with
    | .error err => some (.error (.evaluation err), w)
    | .ok values =>
      match w.library.resolve files program function file with
      | (.error e, library) => some (.error e, { w with library := library })
      | (.ok (callee, f), library) =>
        match calls callee f values { w with library := library } with
        | none => none
        | some (.error e, w) => some (.error e, w)
        | some (.ok _, w) => some (.ok (.completed env), w)

def Statement.execAll (files : FileSystem) (calls : Calls) (program : Program) :
    List Statement → Env → World → Option (Except Error Ending × World)
  | [], env, w => some (.ok (.completed env), w)
  | s :: rest, env, w =>
    match s.exec files calls program env w with
    | some (.ok (.completed env), w) => Statement.execAll files calls program rest env w
    | ended => ended

end

def Ending.forget (ended : Except Error Ending × World) : Except Error Unit × World :=
  (ended.1.map fun _ => (), ended.2)

/-- Calls that go no deeper than the given depth. -/
def callsTo (files : FileSystem) : Nat → Calls
  | 0, _, _, _, _ => none
  | depth + 1, program, function, args, w =>
    (Statement.execAll files (callsTo files depth) program function.body
      (Env.ofArgs function.params args) w).map Ending.forget

def Program.evaluate (p : Program) (files : FileSystem) (depth : Nat) (o : RunOptions)
    (inputs : List Value) : Option (Except Error Unit × World) :=
  let w : World := ⟨#[], .buffered inputs, o.library⟩
  match p.find? o.entry with
  | none => some (.error (.unknownEntry o.entry), w)
  | some f => callsTo files depth p f o.args w

/-! ## Blocks -/

section

variable {files : FileSystem} {calls : Calls} {program : Program}

theorem Statement.execAll_append (a b : List Statement) (env : Env) (w : World) :
    execAll files calls program (a ++ b) env w =
      match execAll files calls program a env w with
      | some (.ok (.completed env), w) => execAll files calls program b env w
      | ended => ended := by
  induction a generalizing env w with
  | nil => rfl
  | cons s rest ih =>
    rw [List.cons_append, execAll, execAll]
    split
    · exact ih _ _
    · rename_i hended
      split
      · rename_i h
        exact absurd h (hended _ _)
      · rfl

theorem Statement.execAll_guard {test : Expr} {body rest : List Statement} {env : Env} {w : World}
    {v : Value} (hv : test.eval env = .ok v) (htrue : v.isTruthy = true) :
    execAll files calls program (.guard test body :: rest) env w =
      execAll files calls program (body ++ rest) env w := by
  rw [execAll_append, execAll, exec, hv]
  simp only [htrue, if_true]

end

/-! ## Deeper calls keep the answers -/

def Calls.Below (calls calls' : Calls) : Prop :=
  ∀ program function args w r, calls program function args w = some r →
    calls' program function args w = some r

section

variable {files : FileSystem} {calls calls' : Calls} {program : Program}

mutual

theorem Statement.exec_mono (hle : calls.Below calls') (s : Statement) (env : Env) (w : World)
    (r : Except Error Ending × World) (h : s.exec files calls program env w = some r) :
    s.exec files calls' program env w = some r := by
  cases s with
  | print e => simpa only [exec] using h
  | assign name op value => simpa only [exec] using h
  | leave => simpa only [exec] using h
  | ask name => simpa only [exec] using h
  | guard test body =>
    rw [exec] at h ⊢
    split at h
    · exact h
    · split at h
      · rename_i htrue
        rw [if_pos htrue]
        exact Statement.execAll_mono hle body env w r h
      · rename_i hfalse
        rwa [if_neg hfalse]
  | call function file args =>
    rw [exec] at h ⊢
    split at h
    · exact h
    · split at h
      · exact h
      · split at h
        · simp at h
        · rename_i e w' hcall
          rwa [hle _ _ _ _ _ hcall]
        · rename_i u w' hcall
          rwa [hle _ _ _ _ _ hcall]

theorem Statement.execAll_mono (hle : calls.Below calls') (block : List Statement) (env : Env)
    (w : World) (r : Except Error Ending × World)
    (h : execAll files calls program block env w = some r) :
    execAll files calls' program block env w = some r := by
  match block with
  | [] => simpa only [execAll] using h
  | s :: rest =>
    rw [execAll] at h ⊢
    split at h
    · rename_i env' w' hs
      rw [Statement.exec_mono hle s env w _ hs]
      exact Statement.execAll_mono hle rest env' w' r h
    · rename_i hended
      rw [Statement.exec_mono hle s env w r h]
      split
      · rename_i heq
        rw [Option.some.injEq] at heq
        subst heq
        exact absurd h (hended _ _)
      · rfl

end

end

theorem callsTo_below_succ (files : FileSystem) (depth : Nat) :
    (callsTo files depth).Below (callsTo files (depth + 1)) := by
  induction depth with
  | zero =>
    intro program function args w r h
    simp [callsTo] at h
  | succ depth ih =>
    intro program function args w r h
    rw [callsTo] at h ⊢
    obtain ⟨ended, hended, rfl⟩ := Option.map_eq_some_iff.mp h
    rw [Statement.execAll_mono ih _ _ _ ended hended]
    rfl

end Runbook

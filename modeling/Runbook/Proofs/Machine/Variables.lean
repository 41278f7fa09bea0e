import Runbook.Machine.Basic
import Runbook.Proofs.Expr.Assignments
import Runbook.Proofs.Expr.Writing
import Runbook.Proofs.Machine.Remaining
import Runbook.Proofs.Machine.Runs

/-!
# Storing a value under a name and reading the name

Whatever text names a variable to store in, the name is an identifier, and an identifier reads as
the variable of that name unless it is one of the words for truth values. Those can be stored in
but not read.
-/

namespace Runbook

open Grammar

/-! ## Names to store in -/

/-- The text says that a value is stored under the name: it assigns without an operator, or it is a
single name to ask for. -/
def StoresIn (text name : String) : Prop :=
  (∃ value, Assignment.parse? text = some ⟨name, none, value⟩) ∨ variableName? text = some name

theorem StoresIn.isIdentifier {text name : String} (h : StoresIn text name) :
    Text.isIdentifier name.toList = true := by
  rcases h with ⟨value, hassign⟩ | hask
  · obtain ⟨form, -, hform⟩ := Assignment.form_of_parse? hassign
    have hname : String.ofList form.name = name := congrArg Assignment.name hform
    rw [← hname, String.toList_ofList]
    exact form.name_identifier
  · simp only [variableName?] at hask
    split at hask
    · rename_i hidentifier
      rw [← Option.some.inj hask, String.toList_ofList]
      exact hidentifier
    · cases hask

theorem Expr.parse_identifier {name : String} (h : Text.isIdentifier name.toList = true) :
    Expr.parse name = .ok (wordTree name.toList) := by
  have hlevel := (Derives.suffixed (.primary (derives_word h))).level (Nat.zero_le 6)
  have hparse := parse_of_expresses hlevel
  rwa [String.ofList_toList] at hparse

namespace Machine

/-! ## Storing -/

inductive Stores (name : String) (v : Value) (m : Machine) : Machine → Prop where
  | assigned {next : Machine} {files : FileSystem} {f : Frame} {below : List Frame} {e : Expr}
    {tail : Bool} (hframes : m.frames = f :: below) (hvalue : f.eval e = .ok v)
    (h : m.execute files (.assign name none e) tail = (.ok .running, next)) : Stores name v m next
  | read {next : Machine} {files : FileSystem} {f : Frame} {below : List Frame}
    {values : List Value} {tail : Bool} (hframes : m.frames = f :: below)
    (hinput : m.input = .buffered values) (hvalue : values.headD .null = v)
    (h : m.execute files (.ask name) tail = (.ok .running, next)) : Stores name v m next
  | answered {waiting next : Machine} {files : FileSystem} {tail : Bool}
    (hask : m.execute files (.ask name) tail = (.ok (.suspended name), waiting))
    (h : waiting.provide v = .ok next) : Stores name v m next

theorem store_of_frames {m : Machine} {f : Frame} {below : List Frame} (h : m.frames = f :: below)
    (name : String) (v : Value) : m.store name v = { m with frames := f.set name v :: below } := by
  unfold store
  rw [h]

theorem frames_of_provide {m next : Machine} {name : String} {v : Value}
    (hwaiting : m.waiting = some name) (h : m.provide v = .ok next) :
    ∃ f below, m.frames = f :: below ∧ next.frames = f.set name v :: below := by
  unfold provide at h
  rw [hwaiting] at h
  cases hframes : m.frames with
  | nil => simp [hframes] at h
  | cons f below =>
    simp only [hframes, store_of_frames hframes] at h
    obtain rfl := Except.ok.inj h
    exact ⟨f, below, rfl, rfl⟩

theorem Stores.frames {name : String} {v : Value} {m next : Machine} (h : Stores name v m next) :
    ∃ f below, m.frames = f :: below ∧ next.frames = f.set name v :: below := by
  cases h with
  | @assigned _ files f below e tail hframes hvalue h =>
    simp only [execute, assign, hframes, hvalue, store_of_frames hframes] at h
    obtain ⟨-, rfl⟩ := Prod.mk.inj h
    exact ⟨f, below, hframes, rfl⟩
  | @read _ files f below values tail hframes hinput hvalue h =>
    refine ⟨f, below, hframes, ?_⟩
    cases values with
    | nil =>
      obtain rfl : Value.null = v := hvalue
      simp only [execute, ask, hinput, store_of_frames hframes] at h
      obtain ⟨-, rfl⟩ := Prod.mk.inj h
      rfl
    | cons first rest =>
      obtain rfl : first = v := hvalue
      have hstore := store_of_frames (m := { m with input := .buffered rest }) hframes name first
      simp only [execute, ask, hinput, hstore] at h
      obtain ⟨-, rfl⟩ := Prod.mk.inj h
      rfl
  | @answered waiting _ files tail hask h =>
    have hwaiting : waiting.waiting = some name ∧ waiting.frames = m.frames := by
      simp only [execute, ask] at hask
      split at hask
      · simp at hask
      · simp at hask
      · obtain ⟨-, rfl⟩ := Prod.mk.inj hask
        exact ⟨rfl, rfl⟩
    rw [← hwaiting.2]
    exact frames_of_provide hwaiting.1 h

/-! ## Reading -/

/-- What is stored under a name is read under it, unless the name is a word for a truth value: that
reads as the truth value, whatever the variable holds. -/
theorem stored_value_readable {text name : String} {v : Value} {m next : Machine}
    (htext : StoresIn text name) (h : Stores name v m next) :
    ∃ f below e, next.frames = f :: below ∧ f.get name = v ∧ Expr.parse name = .ok e ∧
      (name ≠ "true" → name ≠ "false" → f.eval e = .ok v) ∧
      (name = "true" → f.eval e = .ok (.bool true)) ∧
      (name = "false" → f.eval e = .ok (.bool false)) := by
  obtain ⟨g, below, -, hnext⟩ := h.frames
  have hget : (g.set name v).get name = v := by
    simp [Frame.get, Frame.set, Bindings.get_set]
  refine ⟨g.set name v, below, wordTree name.toList, hnext, hget,
    Expr.parse_identifier htext.isIdentifier, ?_, ?_, ?_⟩
  · intro htrue hfalse
    have hword : wordTree name.toList = .var name := by
      rw [wordTree, if_neg (mt String.toList_inj.mp htrue), if_neg (mt String.toList_inj.mp hfalse),
        String.ofList_toList]
    rw [hword]
    exact congrArg Except.ok hget
  · rintro rfl
    rfl
  · rintro rfl
    rfl

def idle (input : Input) : Machine where
  frames := [.start (.empty "") ⟨"main", [], []⟩ []]
  input := input

theorem stored_value_readable_answered :
    StoresIn " größe\n" "größe" ∧
    ∃ next f below e, Stores "größe" (.str "L") (idle .interactive) next ∧
      next.frames = f :: below ∧ Expr.parse "größe" = .ok e ∧ f.eval e = .ok (.str "L") := by
  have htext : StoresIn " größe\n" "größe" := .inr rfl
  have hstores : Stores "größe" (.str "L") (idle .interactive) _ :=
    @Stores.answered _ _ (idle .interactive) _ _ .empty false rfl rfl
  obtain ⟨f, below, e, hframes, -, hparse, hread, -, -⟩ := stored_value_readable htext hstores
  exact ⟨htext, _, f, below, e, hstores, hframes, hparse, hread (by decide) (by decide)⟩

/-- A number assigned to `true` is not read under that name, nor is a text that was read into
`false`. -/
theorem stored_value_unreadable :
    (StoresIn "true = 5" "true" ∧
      ∃ next f below e, Stores "true" (.num 5) (idle .interactive) next ∧
        next.frames = f :: below ∧ Expr.parse "true" = .ok e ∧ f.eval e ≠ .ok (.num 5)) ∧
    (StoresIn "false" "false" ∧
      ∃ next f below e, Stores "false" (.str "a") (idle (.buffered [.str "a"])) next ∧
        next.frames = f :: below ∧ Expr.parse "false" = .ok e ∧ f.eval e ≠ .ok (.str "a")) := by
  have hassigned : Stores "true" (.num 5) (idle .interactive) _ :=
    @Stores.assigned _ _ (idle .interactive) _ .empty _ _ (.num 5) false rfl rfl rfl
  have hread : Stores "false" (.str "a") (idle (.buffered [.str "a"])) _ :=
    @Stores.read _ _ (idle (.buffered [.str "a"])) _ .empty _ _ _ false rfl rfl rfl rfl
  have htrue : Expr.parse "true" = .ok (.bool true) := Expr.parse_identifier (by decide)
  have hfalse : Expr.parse "false" = .ok (.bool false) := Expr.parse_identifier (by decide)
  refine ⟨⟨.inl ⟨"5", rfl⟩, _, _, _, _, hassigned, rfl, htrue, ?_⟩,
    .inr rfl, _, _, _, _, hread, rfl, hfalse, ?_⟩
  · intro heval
    cases heval
  · intro heval
    cases heval

end Machine

end Runbook

import Runbook.Library

/-!
# Loading programs into a library

What a path gives and where it comes from. A library only grows.
-/

namespace Runbook

inductive Error.OfLookup : Error → Prop where
  | malformed (e : SyntaxError) : OfLookup (.malformed e)
  | unknownFunction (name : String) : OfLookup (.unknownFunction name)
  | unknownExternalFunction (name path : String) : OfLookup (.unknownExternalFunction name path)
  | programNotFound (path : String) (cause : FileError) : OfLookup (.programNotFound path cause)

namespace Library

theorem loadPath_ofLookup {l : Library} {files : FileSystem} {path : String} {e : Error}
    (h : l.loadPath files path = .error e) : e.OfLookup := by
  unfold loadPath at h
  split at h
  · obtain rfl := Except.error.inj h
    exact .programNotFound ..
  · split at h
    · simp at h
    · split at h
      · obtain rfl := Except.error.inj h
        exact .programNotFound ..
      · split at h
        · obtain rfl := Except.error.inj h
          exact .malformed ..
        · simp at h

/-! ## Libraries only grow -/

def Grows (l l' : Library) : Prop := ∀ path p, l.find? path = some p → l'.find? path = some p

theorem Grows.refl (l : Library) : l.Grows l := fun _ _ h => h

theorem Grows.trans {l l' l'' : Library} (h : l.Grows l') (h' : l'.Grows l'') : l.Grows l'' :=
  fun path p hp => h' path p (h path p hp)

theorem find?_concat (l : Library) (key path : String) (p : Program) :
    find? ⟨l.entries ++ [(key, p)]⟩ path =
      (l.find? path).or (if path = key then some p else none) := by
  unfold find?
  rw [List.lookup_append]
  congr 1
  rw [List.lookup_cons]
  by_cases h : path = key
  · simp [h]
  · rw [beq_false_of_ne h, if_neg h]
    rfl

theorem loadPath_cases {l : Library} {files : FileSystem} {path : String} {loaded : Loaded}
    (h : l.loadPath files path = .ok loaded) :
    files.canonical path = .ok loaded.path ∧
      (l.find? loaded.path = some loaded.program ∧ loaded.library = l ∨
        l.find? loaded.path = none ∧
          loaded.library = ⟨l.entries ++ [(loaded.path, loaded.program)]⟩ ∧
          ∃ source, files.read loaded.path = .ok source ∧
            Program.parse source (Path.parent loaded.path) = .ok loaded.program) := by
  unfold loadPath at h
  split at h
  · simp at h
  · rename_i key hkey
    split at h
    · rename_i program hfind
      obtain rfl := Except.ok.inj h
      exact ⟨hkey, .inl ⟨hfind, rfl⟩⟩
    · rename_i hfind
      split at h
      · simp at h
      · rename_i source hsource
        split at h
        · simp at h
        · rename_i program hparse
          obtain rfl := Except.ok.inj h
          exact ⟨hkey, .inr ⟨hfind, rfl, source, hsource, hparse⟩⟩

theorem loadPath_of_find? {l : Library} {files : FileSystem} {path key : String} {p : Program}
    (hkey : files.canonical path = .ok key) (hfind : l.find? key = some p) :
    l.loadPath files path = .ok ⟨key, p, l⟩ := by
  unfold loadPath
  simp only [hkey, hfind]

theorem loadPath_of_read {l : Library} {files : FileSystem} {path key source : String} {p : Program}
    (hkey : files.canonical path = .ok key) (hfind : l.find? key = none)
    (hread : files.read key = .ok source) (hparse : Program.parse source (Path.parent key) = .ok p) :
    l.loadPath files path = .ok ⟨key, p, ⟨l.entries ++ [(key, p)]⟩⟩ := by
  unfold loadPath
  simp only [hkey, hfind, hread, hparse]

theorem loadPath_grows {l : Library} {files : FileSystem} {path : String} {loaded : Loaded}
    (h : l.loadPath files path = .ok loaded) : l.Grows loaded.library := by
  intro other p hother
  obtain ⟨-, ⟨-, hsame⟩ | ⟨-, hadded, -⟩⟩ := loadPath_cases h
  · rwa [hsame]
  · rw [hadded, find?_concat, hother]
    rfl

theorem find?_of_loadPath {l : Library} {files : FileSystem} {path : String} {loaded : Loaded}
    (h : l.loadPath files path = .ok loaded) :
    loaded.library.find? loaded.path = some loaded.program := by
  obtain ⟨-, ⟨hfind, hsame⟩ | ⟨hfind, hadded, -⟩⟩ := loadPath_cases h
  · rwa [hsame]
  · rw [hadded, find?_concat, hfind]
    simp

/-! ## Requests -/

inductive Request where
  | load (dir path : String)
  | loadPath (path : String)

def Request.path : Request → String
  | .load dir path => Path.join dir path
  | .loadPath path => path

def serve (l : Library) (files : FileSystem) : Request → Except Error Loaded
  | .load dir path => l.load files dir path
  | .loadPath path => l.loadPath files path

/-- The library after a request. One that fails leaves it as it is. -/
def after (l : Library) (files : FileSystem) (r : Request) : Library :=
  match l.serve files r with
  | .ok loaded => loaded.library
  | .error _ => l

def afterAll (l : Library) (files : FileSystem) (requests : List Request) : Library :=
  requests.foldl (fun l r => l.after files r) l

theorem serve_eq_loadPath (l : Library) (files : FileSystem) (r : Request) :
    l.serve files r = l.loadPath files r.path := by
  cases r <;> rfl

theorem after_of_ok {l : Library} {files : FileSystem} {r : Request} {loaded : Loaded}
    (h : l.serve files r = .ok loaded) : l.after files r = loaded.library := by
  unfold after
  rw [h]

theorem after_of_error {l : Library} {files : FileSystem} {r : Request} {e : Error}
    (h : l.serve files r = .error e) : l.after files r = l := by
  unfold after
  rw [h]

theorem after_invariant {Inv : Library → Prop} {l : Library} {files : FileSystem} (h : Inv l)
    (hload : ∀ path loaded, l.loadPath files path = .ok loaded → Inv loaded.library) (r : Request) :
    Inv (l.after files r) := by
  cases hserve : l.serve files r with
  | error e => rwa [after_of_error hserve]
  | ok loaded =>
    rw [after_of_ok hserve]
    rw [serve_eq_loadPath] at hserve
    exact hload r.path loaded hserve

end Library

end Runbook

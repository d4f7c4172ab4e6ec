import Pinpoint.Proofs.Lookups

/-!
# Files that get other contents

Where two trees differ only in the contents of one file, every walk leads to the same
place, and whatever is looked up there is the same unless it is this file. So what is
found by a walk can be told apart only by reading the file.
-/

namespace Pinpoint

namespace FileTree

/-- The second tree has other contents in the file at `p` and is the same everywhere else. -/
structure Rewritten (t u : FileTree) (p : Path) (old new : List UInt8) : Prop where
  top : u.top = t.top
  before : t.lookup? p = some (.file old)
  after : u.lookup? p = some (.file new)
  elsewhere : ∀ q, q ≠ p → u.lookup? q = t.lookup? q

theorem rewritten_of_lookup {t : FileTree} {p : Path} {old new : List UInt8}
    (h : t.lookup? p = some (.file old)) : Rewritten t (t.place p (.file new)) p old new where
  top := rfl
  before := h
  after := (lookup?_place h).trans (if_pos rfl)
  elsewhere := fun _ hq => (lookup?_place h).trans (if_neg hq)

/-- One file is written in two ways into the same tree. -/
theorem rewritten_place (t : FileTree) (p : Path) (old new : List UInt8) :
    Rewritten (t.place p (.file old)) (t.place p (.file new)) p old new where
  top := rfl
  before := lookup?_of_lookup List.lookup_cons_self
  after := lookup?_of_lookup List.lookup_cons_self
  elsewhere := by
    intro q hq
    have hb : (q == p) = false := beq_false_of_ne hq
    have hentries (node : Node) : (t.place p node).entries.lookup q = t.entries.lookup q := by
      rw [place, List.lookup_cons, hb]
    rw [lookup?, lookup?, hentries, hentries]
    rfl

/-- A walk of one step to a name can only lead to what has this name. -/
theorem eq_of_walk_name {t : FileTree} {d p : Path} {name : Text} (hname : IsName name)
    (h : t.walk (.inside d) [name] = .ok (.inside p)) : p = d ++ [name] := by
  simp only [walk] at h
  split at h
  · cases h
  · cases h
  · split at h
    · cases h
    · rw [step_name hname] at h
      exact (Location.inside.inj (Except.ok.inj h)).symm

namespace Rewritten

variable {t u : FileTree} {p : Path} {old new : List UInt8} (h : Rewritten t u p old new)
include h

theorem written_eq (q : Path) : u.written q = t.written q := by
  rw [written, written, h.top]

theorem origin_eq (directory : Path) (path : Text) : u.origin directory path = t.origin directory path := by
  rw [origin, origin, h.top]

theorem nodeAt?_eq_or (l : Location) : u.nodeAt? l = t.nodeAt? l ∨
    l = .inside p ∧ t.nodeAt? l = some (.file old) ∧ u.nodeAt? l = some (.file new) := by
  cases l with
  | above => exact Or.inl rfl
  | nowhere => exact Or.inl rfl
  | inside q =>
    by_cases hq : q = p
    · rw [hq]
      exact Or.inr ⟨rfl, h.before, h.after⟩
    · exact Or.inl (h.elsewhere q hq)

theorem walk_eq (l : Location) (parts : List Text) : u.walk l parts = t.walk l parts := by
  induction parts generalizing l with
  | nil => rfl
  | cons part rest ih =>
    rcases h.nodeAt?_eq_or l with hsame | ⟨-, hold, hnew⟩
    · simp only [walk, hsame, ih]
    · simp only [walk, hold, hnew]

theorem follow_eq_or (l : Location) (parts : List Text) : u.follow l parts = t.follow l parts ∨
    t.walk l parts = .ok (.inside p) ∧
      t.follow l parts = .ok (.file old) ∧ u.follow l parts = .ok (.file new) := by
  simp only [follow, h.walk_eq]
  cases t.walk l parts with
  | error e => exact Or.inl rfl
  | ok place =>
    rcases h.nodeAt?_eq_or place with hsame | ⟨rfl, hold, hnew⟩
    · simp only [bind, Except.bind, hsame, true_or]
    · simp only [bind, Except.bind, hold, hnew, and_self, or_true]

theorem stat_eq_or (directory : Path) (path : Text) : u.stat directory path = t.stat directory path ∨
    t.stat directory path = .ok (.file old) ∧ u.stat directory path = .ok (.file new) := by
  simp only [stat, h.origin_eq]
  cases vet path with
  | error e => exact Or.inl rfl
  | ok =>
    simp only [bind, Except.bind]
    split
    · exact Or.inl rfl
    · exact (h.follow_eq_or _ _).imp_right And.right

theorem read_eq_or (directory : Path) (path : Text) : u.read directory path = t.read directory path ∨
    t.read directory path = .ok old ∧ u.read directory path = .ok new := by
  rcases h.stat_eq_or directory path with hsame | ⟨hold, hnew⟩
  · rw [read, read, hsame]
    exact Or.inl rfl
  · rw [read, read, hold, hnew]
    exact Or.inr ⟨rfl, rfl⟩

theorem fileAt?_eq_or (path : Text) (l : Location) (parts : List Text) :
    u.fileAt? path l parts = t.fileAt? path l parts ∨
    t.walk l parts = .ok (.inside p) ∧
      t.fileAt? path l parts = .ok (some old) ∧ u.fileAt? path l parts = .ok (some new) := by
  simp only [fileAt?]
  cases vet path with
  | error e => exact Or.inl rfl
  | ok =>
    rcases h.follow_eq_or l parts with hsame | ⟨hwalk, hold, hnew⟩
    · simp only [Except.bind, hsame, true_or]
    · simp only [Except.bind, hwalk, hold, hnew, and_self, or_true]

end Rewritten

end FileTree

end Pinpoint

import Pinpoint.Proofs.ConfigFailures
import Pinpoint.Proofs.Contents
import Pinpoint.Proofs.Lookups

/-!
# The nearest configuration

A search looks into the start directory and then into one directory around it after
the other. It ends at the deepest of these directories that holds a file of the name,
and only if none does it finds nothing. What applies is what this one file loads as, so
no other file matters, not even where the nearest one cannot be used.

The search needs to look up the start and the name in every directory on its way. It
fails if one of these paths is too long to be looked up, also where the name stands
further up.
-/

namespace Pinpoint

namespace FileTree

variable {p d e : Path}

theorem mem_upward_iff : d ∈ upward p ↔ d <+: p := by
  simp only [upward, List.mem_map, List.mem_range]
  constructor
  · rintro ⟨i, -, rfl⟩
    exact List.take_prefix _ _
  · intro h
    refine ⟨p.length - d.length, by omega, ?_⟩
    rw [show p.length - (p.length - d.length) = d.length by have := h.length_le; omega]
    exact (List.prefix_iff_eq_take.mp h).symm

theorem pairwise_upward (p : Path) : (upward p).Pairwise fun d e => e.length < d.length := by
  rw [upward, List.pairwise_map]
  refine List.pairwise_lt_range.imp_of_mem fun {i j} hi hj hlt => ?_
  rw [List.mem_range] at hi hj
  simp only [List.length_take]
  omega

/-- The directories that a search comes to before another one lie deeper. -/
theorem prefix_of_upward_eq {before after : List Path} (h : upward p = before ++ d :: after)
    (he : e ∈ before) : d <+: e := by
  have hlt : d.length < e.length := by
    have hpairs := pairwise_upward p
    rw [h] at hpairs
    exact (List.pairwise_append.mp hpairs).2.2 e he d List.mem_cons_self
  have hd : d <+: p := mem_upward_iff.mp (by rw [h]; exact List.mem_append_right _ List.mem_cons_self)
  have hep : e <+: p := mem_upward_iff.mp (by rw [h]; exact List.mem_append_left _ he)
  exact List.prefix_of_prefix_length_le hd hep (Nat.le_of_lt hlt)

/-- The directory that a path stands for: a file stands for the one it is in. -/
def directoryOf (t : FileTree) (p : Path) : Path :=
  if (t.bytesAt? p).isSome then p.dropLast else p

theorem directoryOf_prefix (t : FileTree) (p : Path) : t.directoryOf p <+: p := by
  unfold directoryOf
  split
  · exact List.dropLast_prefix p
  · exact List.prefix_rfl

end FileTree

namespace Config

section

variable {α β ε : Type} {f g : α → Except ε (Option β)} {l : List α}

theorem findSomeM?_eq_ok {found : α → Option β} (h : ∀ a ∈ l, f a = .ok (found a)) :
    l.findSomeM? f = .ok (l.findSome? found) := by
  induction l with
  | nil => rfl
  | cons a more ih =>
    rw [List.forall_mem_cons] at h
    rw [List.findSomeM?_cons, List.findSome?_cons, h.1]
    cases found a with
    | some b => rfl
    | none => exact ih h.2

/-- Where nothing is found before something fails, the search fails. -/
theorem findSomeM?_fails {before after : List α} {a : α} {e : ε}
    (hbefore : ∀ x ∈ before, ∀ b, f x ≠ .ok (some b)) (ha : f a = .error e) :
    ∃ e, (before ++ a :: after).findSomeM? f = .error e := by
  induction before with
  | nil => exact ⟨e, by rw [List.nil_append, List.findSomeM?_cons, ha]; rfl⟩
  | cons x more ih =>
    rw [List.forall_mem_cons] at hbefore
    rw [List.cons_append, List.findSomeM?_cons]
    cases hx : f x with
    | error e => exact ⟨e, rfl⟩
    | ok found =>
      cases found with
      | some b => exact absurd hx (hbefore.1 b)
      | none => exact ih hbefore.2

/-- Two searches that differ only in changes to what is found are the same, unless the
search ends at a change. -/
theorem findSomeM?_congr_or {changed : α → β → Prop}
    (h : ∀ a ∈ l, g a = f a ∨ ∃ b, changed a b ∧ f a = .ok (some b)) :
    l.findSomeM? g = l.findSomeM? f ∨ ∃ a ∈ l, ∃ b, changed a b ∧ l.findSomeM? f = .ok (some b) := by
  induction l with
  | nil => exact Or.inl rfl
  | cons a more ih =>
    rw [List.forall_mem_cons] at h
    rw [List.findSomeM?_cons, List.findSomeM?_cons]
    rcases h.1 with hsame | ⟨b, hb, hfound⟩
    · rw [hsame]
      cases hx : f a with
      | error e => exact Or.inl rfl
      | ok found =>
        cases found with
        | some b => exact Or.inl rfl
        | none =>
          rcases ih h.2 with hrest | ⟨c, hc, b, hb, hrest⟩
          · exact Or.inl hrest
          · exact Or.inr ⟨c, List.mem_cons_of_mem _ hc, b, hb, hrest⟩
    · refine Or.inr ⟨a, List.mem_cons_self, b, hb, ?_⟩
      rw [hfound]
      rfl

end

open FileTree (IsName)

section

variable {t : FileTree} {d path : Path} {name : Text}

/-- The file of this name in a directory, as the tree has it. -/
def holding? (t : FileTree) (name : Text) (d : Path) : Option Source :=
  (t.bytesAt? (d ++ [name])).map (⟨t.written (d ++ [name]), ·⟩)

theorem holding?_eq_some_iff {source : Source} : holding? t name d = some source ↔
    t.lookup? (d ++ [name]) = some (.file source.bytes) ∧ source.path = t.written (d ++ [name]) := by
  rw [holding?, Option.map_eq_some_iff, ← FileTree.bytesAt?_eq_some_iff]
  constructor
  · rintro ⟨bytes, hbytes, rfl⟩
    exact ⟨hbytes, rfl⟩
  · rintro ⟨hbytes, hpath⟩
    exact ⟨source.bytes, hbytes, by rw [← hpath]⟩

theorem holding?_eq_none_iff :
    holding? t name d = none ↔ ∀ bytes, t.lookup? (d ++ [name]) ≠ some (.file bytes) := by
  rw [holding?, Option.map_eq_none_iff, Option.eq_none_iff_forall_not_mem]
  simp only [Option.mem_def, FileTree.bytesAt?_eq_some_iff, ne_eq]

theorem sourceIn?_eq (hname : IsName name) : sourceIn? t name d =
    ((t.fileAt? (t.written (d ++ [name])) (.inside d) [name]).mapError
      (.unreadable · (t.written (d ++ [name])))).map fun bytes? =>
        bytes?.map (⟨t.written (d ++ [name]), ·⟩) := by
  obtain ⟨hnonempty, hdot, -, hslash, -⟩ := hname
  have hrelative : FileTree.isAbsolute name = false := by
    rw [FileTree.isAbsolute, decide_eq_false_iff_not]
    exact fun habsolute => hslash (List.mem_of_mem_head? habsolute)
  have hparts : FileTree.parts name = [name] := by
    rw [FileTree.parts, Text.fields_of_notMem hslash]
    simp [hnonempty, hdot]
  rw [sourceIn?, FileTree.joined, FileTree.origin, hrelative, hparts]
  rfl

theorem sourceIn?_tooLong (ht : t.WellFormed) (hnames : ∀ part ∈ d ++ [name], IsName part)
    (h : t.TooLong d [name]) :
    sourceIn? t name d = .error (.unreadable .nameTooLong (t.written (d ++ [name]))) := by
  rw [sourceIn?_eq (hnames name (by simp)), FileTree.fileAt?_tooLong ht hnames h]
  rfl

theorem sourceIn?_of_not_tooLong (ht : t.WellFormed) (hnames : ∀ part ∈ d ++ [name], IsName part)
    (h : ¬ t.TooLong d [name]) : sourceIn? t name d = .ok (holding? t name d) := by
  rw [sourceIn?_eq (hnames name (by simp)), FileTree.fileAt?_of_not_tooLong ht hnames h]
  rfl

theorem startDirectory_tooLong (ht : t.WellFormed) (hnames : ∀ part ∈ path, IsName part)
    (h : t.TooLong [] path) :
    startDirectory t path = .error (.unreadable .nameTooLong (t.written path)) := by
  have hfile := FileTree.fileAt?_tooLong ht (d := []) hnames h
  rw [List.nil_append] at hfile
  rw [startDirectory, fileAt?, hfile]
  rfl

theorem startDirectory_of_not_tooLong (ht : t.WellFormed) (hnames : ∀ part ∈ path, IsName part)
    (h : ¬ t.TooLong [] path) : startDirectory t path = .ok (t.directoryOf path) := by
  have hfile := FileTree.fileAt?_of_not_tooLong ht (d := []) hnames h
  rw [List.nil_append] at hfile
  rw [startDirectory, fileAt?, hfile, FileTree.directoryOf]
  cases t.bytesAt? path <;> rfl

end

/-- Of the directories around the start, this is the deepest that holds a file of the name. -/
structure Nearest (t : FileTree) (name : Text) (start d : Path) (bytes : List UInt8) : Prop where
  around : d <+: start
  holds : t.lookup? (d ++ [name]) = some (.file bytes)
  deepest : ∀ e, e <+: start → (∃ other, t.lookup? (e ++ [name]) = some (.file other)) →
    e.length ≤ d.length

/-- No directory around the start holds a file of the name. -/
def NowhereAround (t : FileTree) (name : Text) (start : Path) : Prop :=
  ∀ d, d <+: start → ∀ bytes, t.lookup? (d ++ [name]) ≠ some (.file bytes)

/-- A path that the search needs to look up is too long: the start itself, or the name in
a directory around it. -/
def Unsearchable (t : FileTree) (name : Text) (path : Path) : Prop :=
  t.TooLong [] path ∨ ∃ d, d <+: t.directoryOf path ∧ t.TooLong d [name]

/-- The search can look up all paths that it needs. -/
structure Searchable (t : FileTree) (directory : Path) (start name : Text) (path : Path) : Prop where
  noZero : '\x00' ∉ start
  inside : t.resolve directory start = .inside path
  short : ¬ Unsearchable t name path

/-- The nearest file of the name, seen from a path written in a directory. -/
def IsNearest (t : FileTree) (directory : Path) (start name : Text) (p : Path) : Prop :=
  ∃ path d bytes, t.resolve directory start = .inside path ∧
    Nearest t name (t.directoryOf path) d bytes ∧ p = d ++ [name]

section

variable {t : FileTree} {name : Text} {start d e path : Path} {bytes other : List UInt8}

theorem Nearest.unique (h : Nearest t name start d bytes) (h' : Nearest t name start e other) :
    d = e ∧ bytes = other := by
  have hlength : d.length = e.length :=
    Nat.le_antisymm (h'.deepest d h.around ⟨bytes, h.holds⟩) (h.deepest e h'.around ⟨other, h'.holds⟩)
  obtain rfl : d = e :=
    (List.prefix_of_prefix_length_le h.around h'.around hlength.le).eq_of_length hlength
  exact ⟨rfl, Node.file.inj (Option.some.inj (h.holds.symm.trans h'.holds))⟩

theorem findSome?_upward_eq_none_iff :
    (FileTree.upward start).findSome? (holding? t name) = none ↔ NowhereAround t name start := by
  rw [List.findSome?_eq_none_iff]
  simp only [FileTree.mem_upward_iff, holding?_eq_none_iff, NowhereAround]

theorem findSome?_upward_eq_some_iff {source : Source} :
    (FileTree.upward start).findSome? (holding? t name) = some source ↔
      ∃ d, Nearest t name start d source.bytes ∧ source.path = t.written (d ++ [name]) := by
  have hnearest {found : Source}
      (h : (FileTree.upward start).findSome? (holding? t name) = some found) :
      ∃ d, Nearest t name start d found.bytes ∧ found.path = t.written (d ++ [name]) := by
    obtain ⟨before, d, after, hupward, hd, hbefore⟩ := List.findSome?_eq_some_iff.mp h
    obtain ⟨hholds, hpath⟩ := holding?_eq_some_iff.mp hd
    have hmem : d ∈ FileTree.upward start := by
      rw [hupward]
      exact List.mem_append_right _ List.mem_cons_self
    refine ⟨d, ⟨FileTree.mem_upward_iff.mp hmem, hholds, ?_⟩, hpath⟩
    rintro e he ⟨other, hother⟩
    have hin := FileTree.mem_upward_iff.mpr he
    rw [hupward, List.mem_append, List.mem_cons] at hin
    rcases hin with hin | rfl | hin
    · exact absurd hother (holding?_eq_none_iff.mp (hbefore e hin) other)
    · exact Nat.le_refl _
    · have hpairs := FileTree.pairwise_upward start
      rw [hupward, List.pairwise_append, List.pairwise_cons] at hpairs
      exact Nat.le_of_lt (hpairs.2.1.1 e hin)
  constructor
  · exact hnearest
  · rintro ⟨d, hd, hpath⟩
    cases hfound : (FileTree.upward start).findSome? (holding? t name) with
    | none => exact absurd hd.holds (findSome?_upward_eq_none_iff.mp hfound d hd.around _)
    | some found =>
      obtain ⟨e, he, hfoundPath⟩ := hnearest hfound
      obtain ⟨rfl, hbytes⟩ := hd.unique he
      obtain ⟨foundPath, foundBytes⟩ := found
      obtain ⟨sourcePath, sourceBytes⟩ := source
      obtain rfl : foundPath = sourcePath := hfoundPath.trans hpath.symm
      obtain rfl : sourceBytes = foundBytes := hbytes
      rfl

theorem isName_append (hpath : ∀ part ∈ path, FileTree.IsName part) (hname : FileTree.IsName name)
    (hd : d <+: t.directoryOf path) : ∀ part ∈ d ++ [name], FileTree.IsName part := by
  intro part hpart
  rcases List.mem_append.mp hpart with hpart | hpart
  · exact hpath part ((hd.trans (t.directoryOf_prefix path)).subset hpart)
  · exact List.mem_singleton.mp hpart ▸ hname

/-- The search from a directory inside the tree, once the start is looked up. -/
theorem find_eq {directory : Path} {text : Text} (hzero : '\x00' ∉ text)
    (hresolve : t.resolve directory text = .inside path) :
    find t directory text name = (do
      let start ← startDirectory t path
      match ← (FileTree.upward start).findSomeM? (sourceIn? t name) with
      | some source => .ok source
      | none => .error (.notFound name (t.written start))) := by
  simp only [find, hresolve]
  exact if_neg (by simpa using hzero)

/-- Deeper directories than one in which the name cannot be looked up hold no file that can
be found. -/
theorem not_found_below (ht : t.WellFormed) (hnames : ∀ part ∈ e ++ [name], FileTree.IsName part)
    (hd : d <+: e) (h : t.TooLong d [name]) (source : Source) :
    sourceIn? t name e ≠ .ok (some source) := by
  by_cases he : t.TooLong e [name]
  · rw [sourceIn?_tooLong ht hnames he]
    exact nofun
  · rw [sourceIn?_of_not_tooLong ht hnames he]
    intro hfound
    have hholds := (holding?_eq_some_iff.mp (Except.ok.inj hfound)).1
    refine he ?_
    rcases h with hlong | ⟨before, part, hpart, -, hlong⟩
    · exact Or.inl (Nat.lt_of_lt_of_le hlong (FileTree.byteLength_written_le hd name))
    · -- The name itself is too long, and what holds it is a directory.
      have hone : before = [] ∧ part = name := by
        have hlength := hpart.length_le
        obtain rfl : before = [] := List.eq_nil_of_length_eq_zero (by simpa using hlength)
        exact ⟨rfl, by simpa using hpart⟩
      obtain ⟨rfl, rfl⟩ := hone
      refine Or.inr ⟨[], part, List.prefix_rfl, ?_, hlong⟩
      rw [List.append_nil]
      exact ht.lookup?_above (by rw [hholds]; exact Option.some_ne_none _) (List.prefix_append _ _)
        (by simp)

variable {directory : Path} {text : Text}

theorem isName_of_resolve (ht : t.WellFormed) (hdirectory : t.lookup? directory = some .directory)
    (hzero : '\x00' ∉ text) (hresolve : t.resolve directory text = .inside path) :
    ∀ part ∈ path, FileTree.IsName part := by
  have hnamed := FileTree.named_resolve ht (by rw [hdirectory]; exact Option.some_ne_none _) hzero
  rwa [hresolve] at hnamed

theorem find_of_searchable (ht : t.WellFormed) (hzero : '\x00' ∉ text)
    (hresolve : t.resolve directory text = .inside path)
    (hpath : ∀ part ∈ path, FileTree.IsName part) (hname : FileTree.IsName name)
    (h : ¬ Unsearchable t name path) :
    find t directory text name =
      match (FileTree.upward (t.directoryOf path)).findSome? (holding? t name) with
      | some source => .ok source
      | none => .error (.notFound name (t.written (t.directoryOf path))) := by
  obtain ⟨hstart, hcandidates⟩ := not_or.mp h
  have hsources : ∀ d ∈ FileTree.upward (t.directoryOf path),
      sourceIn? t name d = .ok (holding? t name d) := by
    intro d hd
    have hd := FileTree.mem_upward_iff.mp hd
    exact sourceIn?_of_not_tooLong ht (isName_append hpath hname hd)
      fun hlong => hcandidates ⟨d, hd, hlong⟩
  rw [find_eq hzero hresolve, startDirectory_of_not_tooLong ht hpath hstart]
  simp only [bind, Except.bind, findSomeM?_eq_ok hsources]

theorem find_of_unsearchable (ht : t.WellFormed) (hzero : '\x00' ∉ text)
    (hresolve : t.resolve directory text = .inside path)
    (hpath : ∀ part ∈ path, FileTree.IsName part) (hname : FileTree.IsName name)
    (h : Unsearchable t name path) :
    ∃ place, find t directory text name = .error (.unreadable .nameTooLong place) := by
  rw [find_eq hzero hresolve]
  by_cases hstart : t.TooLong [] path
  · rw [startDirectory_tooLong ht hpath hstart]
    exact ⟨_, rfl⟩
  · obtain ⟨d, hd, hlong⟩ := h.resolve_left hstart
    obtain ⟨before, after, hupward⟩ := List.append_of_mem (FileTree.mem_upward_iff.mpr hd)
    have hnames : ∀ e ∈ FileTree.upward (t.directoryOf path), ∀ part ∈ e ++ [name],
        FileTree.IsName part :=
      fun e he => isName_append hpath hname (FileTree.mem_upward_iff.mp he)
    obtain ⟨error, herror⟩ : ∃ error, (FileTree.upward (t.directoryOf path)).findSomeM?
        (sourceIn? t name) = .error error := by
      rw [hupward]
      refine findSomeM?_fails ?_
        (sourceIn?_tooLong ht (isName_append hpath hname hd) hlong)
      intro e he
      exact not_found_below ht (hnames e (by rw [hupward]; exact List.mem_append_left _ he))
        (FileTree.prefix_of_upward_eq hupward he) hlong
    obtain ⟨e, he, hfails⟩ := findSomeM?_eq_error herror
    have hplace : error = .unreadable .nameTooLong (t.written (e ++ [name])) := by
      by_cases hlong : t.TooLong e [name]
      · rw [sourceIn?_tooLong ht (hnames e he) hlong] at hfails
        exact (Except.error.inj hfails).symm
      · rw [sourceIn?_of_not_tooLong ht (hnames e he) hlong] at hfails
        cases hfails
    refine ⟨t.written (e ++ [name]), ?_⟩
    rw [startDirectory_of_not_tooLong ht hpath hstart]
    simp only [bind, Except.bind, herror, hplace]

/-- What is found tells the directory that it was found in. -/
theorem nearest_of_find (ht : t.WellFormed) (hzero : '\x00' ∉ text)
    (hresolve : t.resolve directory text = .inside path)
    (hpath : ∀ part ∈ path, FileTree.IsName part) (hname : FileTree.IsName name)
    (hd : d <+: t.directoryOf path)
    (h : find t directory text name = .ok ⟨t.written (d ++ [name]), bytes⟩) :
    Nearest t name (t.directoryOf path) d bytes := by
  have hsearchable : ¬ Unsearchable t name path := by
    intro hlong
    obtain ⟨place, hfails⟩ := find_of_unsearchable ht hzero hresolve hpath hname hlong
    rw [h] at hfails
    cases hfails
  have hends := find_of_searchable ht hzero hresolve hpath hname hsearchable
  rw [h] at hends
  split at hends
  · next source hfound =>
    obtain rfl := Except.ok.inj hends
    obtain ⟨e, he, hwritten⟩ := findSome?_upward_eq_some_iff.mp hfound
    have hde : d = e := by
      rcases List.prefix_or_prefix_of_prefix hd he.around with hway | hway
      · exact FileTree.eq_of_written_eq hway hwritten
      · exact (FileTree.eq_of_written_eq hway hwritten.symm).symm
    rw [hde]
    exact he
  · cases hends

section

variable {u : FileTree} {p : Path} {old new : List UInt8} (hu : t.Rewritten u p old new)
include hu

theorem startDirectory_rewritten (path : Path) : startDirectory u path = startDirectory t path := by
  rw [startDirectory, startDirectory, fileAt?, fileAt?, hu.written_eq]
  rcases hu.fileAt?_eq_or (t.written path) (.inside []) path with hsame | ⟨-, hold, hnew⟩
  · rw [hsame]
  · rw [hold, hnew]
    rfl

/-- What is found in a directory changes only if the file found there is the changed one. -/
theorem sourceIn?_rewritten (hname : FileTree.IsName name) (d : Path) :
    sourceIn? u name d = sourceIn? t name d ∨
      ∃ source : Source, (p = d ++ [name] ∧ source = ⟨t.written p, old⟩) ∧
        sourceIn? t name d = .ok (some source) := by
  rw [sourceIn?_eq hname, sourceIn?_eq hname, hu.written_eq]
  rcases hu.fileAt?_eq_or (t.written (d ++ [name])) (.inside d) [name] with hsame | ⟨hwalk, hold, -⟩
  · rw [hsame]
    exact Or.inl rfl
  · obtain rfl := FileTree.eq_of_walk_name hname hwalk
    rw [hold]
    exact Or.inr ⟨_, ⟨rfl, rfl⟩, rfl⟩

/-- A search changes only if it ends at the changed file. -/
theorem find_rewritten (hname : FileTree.IsName name) (directory : Path) (text : Text) :
    find u directory text name = find t directory text name ∨
      ∃ path start d, t.resolve directory text = .inside path ∧ startDirectory t path = .ok start ∧
        d <+: start ∧ p = d ++ [name] ∧ find t directory text name = .ok ⟨t.written p, old⟩ := by
  by_cases hzero : '\x00' ∈ text
  · rw [find, find, if_pos (by simpa using hzero), if_pos (by simpa using hzero)]
    exact Or.inl rfl
  have hsame : u.resolve directory text = t.resolve directory text := by
    rw [FileTree.resolve, FileTree.resolve, hu.origin_eq]
  cases hresolve : t.resolve directory text with
  | above =>
    rw [find, find, hsame, hresolve]
    exact Or.inl rfl
  | nowhere =>
    rw [find, find, hsame, hresolve]
    exact Or.inl rfl
  | inside path =>
    rw [find_eq hzero hresolve, find_eq hzero (hsame.trans hresolve), startDirectory_rewritten hu]
    cases hstart : startDirectory t path with
    | error e => exact Or.inl rfl
    | ok start =>
      simp only [bind, Except.bind, hu.written_eq]
      rcases findSomeM?_congr_or fun d (_ : d ∈ FileTree.upward start) =>
          sourceIn?_rewritten hu hname d with hsame | ⟨d, hd, source, ⟨hpd, rfl⟩, hfound⟩
      · rw [hsame]
        exact Or.inl rfl
      · rw [hfound]
        exact Or.inr ⟨path, start, d, rfl, hstart, FileTree.mem_upward_iff.mp hd, hpd, rfl⟩

/-- A search for another name than that of the changed file does not change. -/
theorem find_rewritten_of_ne (hname : FileTree.IsName name) (hp : p.getLast? ≠ some name)
    (directory : Path) (text : Text) :
    find u directory text name = find t directory text name := by
  rcases find_rewritten hu hname directory text with hsame | ⟨path, start, d, -, -, -, rfl, -⟩
  · exact hsame
  · exact absurd List.getLast?_concat hp

end

/-- Where the changed file is not the nearest one, the search is the same. -/
theorem find_place {p : Path} {old contents : List UInt8} (hp : t.lookup? p = some (.file old))
    (ht : t.WellFormed) (hdirectory : t.lookup? directory = some .directory)
    (hname : FileTree.IsName name) (hother : ¬ IsNearest t directory text name p) :
    find (t.place p (.file contents)) directory text name = find t directory text name := by
  rcases find_rewritten (FileTree.rewritten_of_lookup hp) hname directory text with
    hsame | ⟨path, start, d, hresolve, hstart, hd, rfl, hfind⟩
  · exact hsame
  have hzero : '\x00' ∉ text := by
    intro hzero
    rw [find, if_pos (by simpa using hzero)] at hfind
    cases hfind
  have hpath := isName_of_resolve ht hdirectory hzero hresolve
  have hplace : start = t.directoryOf path := by
    by_cases hlong : t.TooLong [] path
    · rw [startDirectory_tooLong ht hpath hlong] at hstart
      cases hstart
    · rw [startDirectory_of_not_tooLong ht hpath hlong] at hstart
      exact (Except.ok.inj hstart).symm
  rw [hplace] at hd
  have hnearest := nearest_of_find ht hzero hresolve hpath hname hd hfind
  exact absurd ⟨path, d, old, hresolve, hnearest, rfl⟩ hother

theorem discover_of_find {source : Source} (h : find t directory text fileName = .ok source) :
    discover t directory text = ofBytes source.path source.bytes := by
  simp only [discover, nearest?, h]
  cases ofBytes source.path source.bytes <;> rfl

theorem discover_of_notFound {place : Text}
    (h : find t directory text fileName = .error (.notFound fileName place)) :
    discover t directory text = .ok {} := by
  rw [discover, nearest?, h]
  rfl

theorem discover_of_unreadable {failure : FileTree.LookupError} {place : Text}
    (h : find t directory text fileName = .error (.unreadable failure place)) :
    discover t directory text = .error (.unreadable failure place) := by
  rw [discover, nearest?, h]
  rfl

/-- The nearest file is loaded under the path that the search reports. -/
theorem load_nearest (ht : t.WellFormed) (htop : t.top = [])
    (hpath : ∀ part ∈ path, FileTree.IsName part) (hname : FileTree.IsName name)
    (hshort : ¬ Unsearchable t name path) (h : Nearest t name (t.directoryOf path) d bytes) :
    load t directory (t.written (d ++ [name])) = ofBytes (t.written (d ++ [name])) bytes := by
  obtain ⟨hstart, hcandidates⟩ := not_or.mp hshort
  have hnames := isName_append hpath hname h.around
  have hover : ¬ t.Overlong [] d := by
    rintro ⟨before, part, hway, hbefore, hlong⟩
    have hinside := hway.trans (h.around.trans (t.directoryOf_prefix path))
    exact hstart (Or.inr ⟨before, part, hinside, hbefore, hlong⟩)
  have hread := FileTree.read_written htop hnames ht h.holds
    (fun hlong => hcandidates ⟨d, h.around, hlong⟩) hover directory
  rw [load, FileTree.tidy_written htop hnames, hread]
  rfl

theorem find_eq_ok_iff (ht : t.WellFormed) (hdirectory : t.lookup? directory = some .directory)
    (hname : FileTree.IsName name) (h : Searchable t directory text name path) {source : Source} :
    find t directory text name = .ok source ↔
      ∃ d, Nearest t name (t.directoryOf path) d source.bytes ∧
        source.path = t.written (d ++ [name]) := by
  rw [find_of_searchable ht h.noZero h.inside (isName_of_resolve ht hdirectory h.noZero h.inside)
    hname h.short, ← findSome?_upward_eq_some_iff]
  split
  · next hfound => rw [hfound, Except.ok.injEq, Option.some.injEq]
  · next hnone => simp [hnone]

theorem find_eq_error_iff (ht : t.WellFormed) (hdirectory : t.lookup? directory = some .directory)
    (hname : FileTree.IsName name) (h : Searchable t directory text name path) {e : Error} :
    find t directory text name = .error e ↔
      e = .notFound name (t.written (t.directoryOf path)) ∧
        NowhereAround t name (t.directoryOf path) := by
  rw [find_of_searchable ht h.noZero h.inside (isName_of_resolve ht hdirectory h.noZero h.inside)
    hname h.short, ← findSome?_upward_eq_none_iff]
  split
  · next hfound => simp [hfound]
  · next hnone => simp [hnone, eq_comm]

/-- Searches that do not get to look up all paths have no result. -/
theorem find_of_not_searchable (ht : t.WellFormed) (hdirectory : t.lookup? directory = some .directory)
    (hname : FileTree.IsName name) (h : ∀ path, ¬ Searchable t directory text name path) :
    ('\x00' ∈ text ∧ find t directory text name = .error (.unreadable .zeroByte text)) ∨
    ((∀ path, t.resolve directory text ≠ .inside path) ∧
      find t directory text name = .error (.notFound name text)) ∨
    ∃ path place, t.resolve directory text = .inside path ∧ Unsearchable t name path ∧
      find t directory text name = .error (.unreadable .nameTooLong place) := by
  by_cases hzero : '\x00' ∈ text
  · refine Or.inl ⟨hzero, ?_⟩
    rw [find, if_pos (by simpa using hzero)]
  · refine Or.inr ?_
    have houtside (hno : ∀ path, t.resolve directory text ≠ .inside path) :
        find t directory text name = .error (.notFound name text) := by
      rw [find, if_neg (by simpa using hzero)]
      split
      · next path hinside => exact absurd hinside (hno path)
      · rfl
    cases hresolve : t.resolve directory text with
    | inside path =>
      have hlong : Unsearchable t name path := by
        by_contra hshort
        exact h path ⟨hzero, hresolve, hshort⟩
      obtain ⟨place, hfind⟩ := find_of_unsearchable ht hzero hresolve
        (isName_of_resolve ht hdirectory hzero hresolve) hname hlong
      exact Or.inr ⟨path, place, rfl, hlong, hfind⟩
    | above => exact Or.inl ⟨nofun, houtside (by rw [hresolve]; exact nofun)⟩
    | nowhere => exact Or.inl ⟨nofun, houtside (by rw [hresolve]; exact nofun)⟩

/-- A search ends at the file in the deepest directory around the start that holds one,
and it finds nothing exactly if none does. The configuration that applies is then the one
in this file, or what is wrong with this file, and the defaults if nothing was found. No
other file matters. A search that needs to look up a zero byte or a path that is too long
fails, and no configuration applies. -/
theorem discover_nearest (text : Text) (ht : t.WellFormed) (hdirectory : t.lookup? directory = some .directory)
    (hname : FileTree.IsName name) :
    (∀ path, Searchable t directory text name path →
      (∀ source, find t directory text name = .ok source ↔
        ∃ d, Nearest t name (t.directoryOf path) d source.bytes ∧
          source.path = t.written (d ++ [name])) ∧
      ∀ e, find t directory text name = .error e ↔
        e = .notFound name (t.written (t.directoryOf path)) ∧
          NowhereAround t name (t.directoryOf path)) ∧
    ((∀ path, ¬ Searchable t directory text name path) →
      ('\x00' ∈ text ∧ find t directory text name = .error (.unreadable .zeroByte text)) ∨
      ((∀ path, t.resolve directory text ≠ .inside path) ∧
        find t directory text name = .error (.notFound name text)) ∨
      ∃ path place, t.resolve directory text = .inside path ∧ Unsearchable t name path ∧
        find t directory text name = .error (.unreadable .nameTooLong place)) ∧
    (∀ source, find t directory text fileName = .ok source →
      discover t directory text = ofBytes source.path source.bytes ∧
      (t.top = [] → discover t directory text = load t directory source.path)) ∧
    (∀ place, find t directory text fileName = .error (.notFound fileName place) →
      discover t directory text = .ok {}) ∧
    (∀ failure place, find t directory text fileName = .error (.unreadable failure place) →
      discover t directory text = .error (.unreadable failure place)) ∧
    (∀ p old contents, t.lookup? p = some (.file old) → ¬ IsNearest t directory text name p →
      find (t.place p (.file contents)) directory text name = find t directory text name) ∧
    ∀ p old contents, t.lookup? p = some (.file old) → ¬ IsNearest t directory text fileName p →
      discover (t.place p (.file contents)) directory text = discover t directory text := by
  refine ⟨fun path h => ⟨fun source => find_eq_ok_iff ht hdirectory hname h,
      fun e => find_eq_error_iff ht hdirectory hname h⟩,
    find_of_not_searchable ht hdirectory hname, ?_, fun place => discover_of_notFound,
    fun failure place => discover_of_unreadable,
    fun p old contents hp => find_place hp ht hdirectory hname, ?_⟩
  · intro source hsource
    refine ⟨discover_of_find hsource, fun htop => ?_⟩
    have hfile : FileTree.IsName fileName := by decide
    obtain ⟨path, hsearch⟩ : ∃ path, Searchable t directory text fileName path := by
      by_contra hno
      have hfails := find_of_not_searchable ht hdirectory hfile (not_exists.mp hno)
      rw [hsource] at hfails
      rcases hfails with ⟨-, h⟩ | ⟨-, h⟩ | ⟨_, _, -, -, h⟩ <;> cases h
    obtain ⟨d, hd, hplace⟩ := (find_eq_ok_iff ht hdirectory hfile hsearch).mp hsource
    rw [discover_of_find hsource, hplace, load_nearest ht htop
      (isName_of_resolve ht hdirectory hsearch.noZero hsearch.inside) hfile hsearch.short hd]
  · intro p old contents hp hother
    rw [discover, discover, nearest?, nearest?, find_place hp ht hdirectory (by decide) hother]

/-- Starts and names that are short enough can be looked up. -/
theorem not_unsearchable_of_short
    (hpath : FileTree.byteLength (t.written path) ≤ FileTree.maxNameBytes)
    (hname : FileTree.byteLength (t.written (t.directoryOf path ++ [name])) ≤ FileTree.maxNameBytes) :
    ¬ Unsearchable t name path := by
  rintro (hlong | ⟨d, hd, hlong⟩)
  · exact FileTree.not_tooLong_of_short (by rwa [List.nil_append]) hlong
  · exact FileTree.not_tooLong_of_short
      ((FileTree.byteLength_written_le hd name).trans hname) hlong

end

/-- From a file in `a/b`, where a directory has the name, the broken file in `a` is the
nearest one. -/
theorem discover_nearest_broken :
    let t : FileTree :=
      { top := []
        entries := [([['a'], ['b'], fileName], .directory), ([['a'], ['b'], ['f']], .file []),
          ([['a'], fileName], .file [255]), ([fileName], .file [])] }
    let start : Text := "b/../b/f".toList
    (t.WellFormed ∧ t.lookup? [['a']] = some .directory ∧ FileTree.IsName fileName) ∧
    find t [['a']] start fileName = .ok ⟨"/a/friendly.toml".toList, [255]⟩ ∧
    discover t [['a']] start = load t [['a']] "/a/friendly.toml".toList ∧
    (∃ fault, discover t [['a']] start = .error (.undecodable fault)) ∧
    ∀ contents, discover (t.place [fileName] (.file contents)) [['a']] start =
      discover t [['a']] start := by
  intro t start
  have ht : t.WellFormed := by
    constructor <;> decide
  have hdirectory : t.lookup? [['a']] = some .directory := by decide
  have hname : FileTree.IsName fileName := by decide
  have hresolve : t.resolve [['a']] start = .inside [['a'], ['b'], ['f']] := by decide
  have hsearch : Searchable t [['a']] start fileName [['a'], ['b'], ['f']] :=
    ⟨by decide, hresolve, not_unsearchable_of_short (by decide +kernel) (by decide +kernel)⟩
  have hends : (FileTree.upward (t.directoryOf [['a'], ['b'], ['f']])).findSome? (holding? t fileName) =
      some ⟨"/a/friendly.toml".toList, [255]⟩ := by
    decide +kernel
  have hnearest := findSome?_upward_eq_some_iff.mp hends
  obtain ⟨hfind, -, hfound, -, -, -, hother⟩ := discover_nearest start ht hdirectory hname
  have hsource := ((hfind _ hsearch).1 ⟨"/a/friendly.toml".toList, [255]⟩).mpr hnearest
  refine ⟨⟨ht, hdirectory, hname⟩, hsource, (hfound _ hsource).2 rfl, ?_, ?_⟩
  · rw [(hfound _ hsource).1]
    exact ⟨_, rfl⟩
  · intro contents
    refine hother [fileName] [] contents (by decide) ?_
    rintro ⟨path, d, bytes, hpath, hd, hp⟩
    obtain rfl := FileTree.Location.inside.inj (hresolve.symm.trans hpath)
    obtain ⟨e, he, hplace⟩ := hnearest
    obtain ⟨rfl, -⟩ := hd.unique he
    obtain rfl : d = [] := by simpa using hp
    exact absurd hplace (by decide)

/-- The file at the top is not found from a start with a name that is too long. -/
theorem find_fails_overlong :
    let t : FileTree := { top := "/w".toList, entries := [([fileName], .file [])] }
    let start : Text := List.replicate 256 'a'
    t.WellFormed ∧ t.resolve [] start = .inside [start] ∧
    (∃ d, Nearest t fileName (t.directoryOf [start]) d []) ∧
    (∀ source, find t [] start fileName ≠ .ok source) ∧
    discover t [] start ≠ .ok {} := by
  intro t start
  have hfind : (find t [] start fileName).toOption.isNone = true := by decide +kernel
  have hdiscover : (discover t [] start).toOption.isNone = true := by decide +kernel
  have hends : (FileTree.upward (t.directoryOf [start])).findSome? (holding? t fileName) =
      some ⟨"/w/friendly.toml".toList, []⟩ := by
    decide +kernel
  obtain ⟨d, hd, -⟩ := findSome?_upward_eq_some_iff.mp hends
  refine ⟨by constructor <;> decide, by decide +kernel, ⟨d, hd⟩, ?_, ?_⟩
  · intro source hsource
    rw [hsource] at hfind
    cases hfind
  · intro hdefault
    rw [hdefault] at hdiscover
    cases hdiscover

end Config

end Pinpoint

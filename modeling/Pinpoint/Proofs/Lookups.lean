import Mathlib.Data.List.Infix
import Pinpoint.FileTree.Basic
import Pinpoint.Proofs.Lines
import Pinpoint.Proofs.Results

/-!
# Looking up paths

In a well-formed tree only directories hold anything, and every name can be written in
a path. The walk to a path then does not matter: it leads to what stands there in the
tree, unless a name on the way or the path as a whole is too long.

A file that gets other contents stays a file, and nothing else in the tree changes.
-/

namespace Pinpoint.FileTree

/-- A name that something in a directory can have. -/
def IsName (name : Text) : Prop :=
  name ≠ [] ∧ name ≠ ['.'] ∧ name ≠ ['.', '.'] ∧ '/' ∉ name ∧ '\x00' ∉ name

instance (name : Text) : Decidable (IsName name) :=
  inferInstanceAs (Decidable (_ ∧ _))

structure WellFormed (t : FileTree) : Prop where
  top : '\x00' ∉ t.top
  names : ∀ entry ∈ t.entries, ∀ name ∈ entry.1, IsName name
  root : ∀ entry ∈ t.entries, entry.1 = [] → entry.2 = .directory
  leaves : ∀ entry ∈ t.entries, ∀ below ∈ t.entries,
    entry.1 <+: below.1 → entry.1 ≠ below.1 → entry.2 = .directory

/-- The bytes of the file at a path. -/
def bytesAt? (t : FileTree) (p : Path) : Option (List UInt8) :=
  match t.lookup? p with
  | some (.file bytes) => some bytes
  | _ => none

section

variable {t : FileTree} {p q d : Path} {bytes : List UInt8} {node : Node}

theorem bytesAt?_eq_some_iff : t.bytesAt? p = some bytes ↔ t.lookup? p = some (.file bytes) := by
  unfold bytesAt?
  split
  · next found hfound => rw [hfound]; simp
  · next hno =>
    constructor
    · rintro ⟨⟩
    · intro hfile
      exact absurd hfile (hno bytes)

theorem mem_of_lookup (h : t.entries.lookup p = some node) : (p, node) ∈ t.entries := by
  obtain ⟨before, after, hentries, -⟩ := List.lookup_eq_some_iff.mp h
  rw [hentries]
  exact List.mem_append_right _ List.mem_cons_self

theorem lookup?_of_lookup (h : t.entries.lookup p = some node) : t.lookup? p = some node := by
  rw [lookup?, h]

/-- Where there is no entry, a directory stands exactly on the way to some. -/
theorem lookup?_of_lookup_none (h : t.entries.lookup p = none) :
    t.lookup? p = if p = [] ∨ ∃ entry ∈ t.entries, p <+: entry.1 then some .directory else none := by
  rw [lookup?, h]
  simp only [Bool.or_eq_true, List.isEmpty_iff, List.any_eq_true, List.isPrefixOf_iff_prefix]

theorem lookup?_file_iff :
    t.lookup? p = some (.file bytes) ↔ t.entries.lookup p = some (.file bytes) := by
  cases h : t.entries.lookup p with
  | some node => rw [lookup?_of_lookup h]
  | none =>
    rw [lookup?_of_lookup_none h]
    split <;> simp

/-- Everything but the top stands on the way to an entry. -/
theorem exists_entry (h : t.lookup? p ≠ none) (hne : p ≠ []) : ∃ entry ∈ t.entries, p <+: entry.1 := by
  cases hentry : t.entries.lookup p with
  | some node => exact ⟨(p, node), mem_of_lookup hentry, List.prefix_rfl⟩
  | none =>
    rw [lookup?_of_lookup_none hentry] at h
    split at h
    · next hway => exact hway.resolve_left hne
    · exact absurd rfl h

namespace WellFormed

theorem lookup?_root (ht : t.WellFormed) : t.lookup? [] = some .directory := by
  cases hentry : t.entries.lookup [] with
  | some node =>
    obtain rfl : node = .directory := ht.root _ (mem_of_lookup hentry) rfl
    exact lookup?_of_lookup hentry
  | none => rw [lookup?_of_lookup_none hentry, if_pos (Or.inl rfl)]

/-- All that is above something is a directory. -/
theorem lookup?_above (ht : t.WellFormed) (h : t.lookup? p ≠ none) (hq : q <+: p) (hne : q ≠ p) :
    t.lookup? q = some .directory := by
  have hp : p ≠ [] := by
    rintro rfl
    exact hne (List.prefix_nil.mp hq)
  obtain ⟨below, hbelow, hway⟩ := exists_entry h hp
  cases hentry : t.entries.lookup q with
  | some node =>
    have hshort : q ≠ below.1 := by
      rintro rfl
      exact hne (hq.eq_of_length_le hway.length_le)
    obtain rfl : node = .directory :=
      ht.leaves _ (mem_of_lookup hentry) below hbelow (hq.trans hway) hshort
    exact lookup?_of_lookup hentry
  | none => rw [lookup?_of_lookup_none hentry, if_pos (Or.inr ⟨below, hbelow, hq.trans hway⟩)]

theorem isName_of_mem (ht : t.WellFormed) (h : t.lookup? p ≠ none) {name : Text} (hname : name ∈ p) :
    IsName name := by
  obtain ⟨entry, hentry, hway⟩ := exists_entry h (List.ne_nil_of_mem hname)
  exact ht.names entry hentry name (hway.subset hname)

end WellFormed

theorem step_name {part : Text} (h : IsName part) :
    (Location.inside d).step part = .inside (d ++ [part]) := by
  obtain ⟨hnonempty, hdot, hdots, -, -⟩ := h
  simp [Location.step, hnonempty, hdot, hdots]

/-- A walk from a directory comes to a name that is too long. -/
def Overlong (t : FileTree) (d : Path) (parts : List Text) : Prop :=
  ∃ before part, before ++ [part] <+: parts ∧ t.lookup? (d ++ before) = some .directory ∧
    maxNameBytes < byteLength part

theorem overlong_cons {part : Text} {rest : List Text}
    (hshort : byteLength part ≤ maxNameBytes) :
    t.Overlong d (part :: rest) ↔ t.Overlong (d ++ [part]) rest := by
  constructor
  · rintro ⟨before, name, hparts, hbefore, hlong⟩
    cases before with
    | nil =>
      obtain ⟨rfl, -⟩ := List.cons_prefix_cons.mp hparts
      omega
    | cons first more =>
      obtain ⟨rfl, hmore⟩ := List.cons_prefix_cons.mp hparts
      exact ⟨more, name, hmore, by rwa [List.append_assoc], hlong⟩
  · rintro ⟨before, name, hparts, hbefore, hlong⟩
    exact ⟨part :: before, name, List.cons_prefix_cons.mpr ⟨rfl, hparts⟩,
      by rwa [List.append_assoc] at hbefore, hlong⟩

/-- From what is no directory, no walk comes to any name. -/
theorem not_overlong (ht : t.WellFormed) (hno : t.lookup? d ≠ some .directory)
    (parts : List Text) : ¬ t.Overlong d parts := by
  rintro ⟨before, name, -, hbefore, -⟩
  by_cases hnil : before = []
  · rw [hnil, List.append_nil] at hbefore
    exact hno hbefore
  · exact hno (ht.lookup?_above (by rw [hbefore]; exact Option.some_ne_none _)
      (List.prefix_append d before) (by simpa using hnil))

theorem follow_nil : t.follow (.inside d) [] =
    match t.lookup? d with
    | some node => .ok node
    | none => .error .absent := rfl

theorem follow_cons {part : Text} {rest : List Text} : t.follow (.inside d) (part :: rest) =
    match t.lookup? d with
    | none => .error .absent
    | some (.file _) => .error .notDirectory
    | some .directory =>
      if maxNameBytes < byteLength part then .error .nameTooLong
      else t.follow ((Location.inside d).step part) rest := by
  simp only [follow, walk, nodeAt?]
  cases t.lookup? d with
  | none => rfl
  | some node =>
    cases node with
    | file bytes => rfl
    | directory =>
      by_cases hlong : maxNameBytes < byteLength part
      · simp only [if_pos hlong]
        rfl
      · simp only [if_neg hlong]

/-- A walk fails for its length exactly if it comes to a name that is too long, and
otherwise it leads to a file exactly if one stands there. -/
theorem follow_inside (ht : t.WellFormed) {parts : List Text} (hparts : ∀ part ∈ parts, IsName part) :
    (t.follow (.inside d) parts = .error .nameTooLong ↔ t.Overlong d parts) ∧
    (¬ t.Overlong d parts → ∀ bytes,
      t.follow (.inside d) parts = .ok (.file bytes) ↔ t.lookup? (d ++ parts) = some (.file bytes)) := by
  induction parts generalizing d with
  | nil =>
    have hnone : ¬ t.Overlong d [] := by
      rintro ⟨before, name, hparts, -⟩
      simp at hparts
    rw [follow_nil, List.append_nil]
    cases t.lookup? d <;> simp [hnone]
  | cons part rest ih =>
    rw [List.forall_mem_cons] at hparts
    by_cases hdirectory : t.lookup? d = some .directory
    · by_cases hlong : maxNameBytes < byteLength part
      · have hover : t.Overlong d (part :: rest) :=
          ⟨[], part, List.prefix_append [part] rest, by rwa [List.append_nil], hlong⟩
        simp [follow_cons, hdirectory, hlong, hover]
      · have hstep := ih hparts.2 (d := d ++ [part])
        rw [List.append_assoc, List.singleton_append] at hstep
        simpa [follow_cons, hdirectory, hlong, step_name hparts.1, overlong_cons (Nat.not_lt.mp hlong)]
          using hstep
    · -- The walk ends where it starts, and nothing stands behind it.
      have hnothing (bytes : List UInt8) : t.lookup? (d ++ part :: rest) ≠ some (.file bytes) := by
        intro hfile
        exact hdirectory (ht.lookup?_above (by rw [hfile]; exact Option.some_ne_none _)
          (List.prefix_append d _) (by simp))
      have hover := not_overlong ht hdirectory (part :: rest)
      rw [follow_cons]
      cases hd : t.lookup? d with
      | none => simp [hover, hnothing]
      | some node =>
        cases node with
        | file bytes => simp [hover, hnothing]
        | directory => exact absurd hd hdirectory

theorem intercalate_slash (first : Text) (more : List Text) :
    ['/'].intercalate (first :: more) = first ++ more.flatMap ('/' :: ·) := by
  induction more generalizing first with
  | nil => simp
  | cons next rest ih => simp [List.intercalate_cons_cons, ih]

theorem written_eq (hne : p ≠ []) : t.written p = t.top ++ p.flatMap ('/' :: ·) := by
  rw [written, if_neg (by simp [hne]), intercalate_slash]

/-- Directories around each other are told apart by how a name in them is written. -/
theorem eq_of_written_eq {name : Text} (hway : d <+: q)
    (h : t.written (d ++ [name]) = t.written (q ++ [name])) : d = q := by
  obtain ⟨more, rfl⟩ := hway
  have hlength := congrArg List.length h
  rw [written_eq (by simp), written_eq (by simp)] at hlength
  cases more with
  | nil => exact (List.append_nil d).symm
  | cons part rest =>
    simp only [List.flatMap_append, List.flatMap_cons, List.flatMap_nil, List.length_append,
      List.length_cons, List.length_nil] at hlength
    omega

theorem zero_notMem_written (ht : t.WellFormed) (h : ∀ part ∈ p, IsName part) :
    '\x00' ∉ t.written p := by
  have hparts : '\x00' ∉ t.top ++ p.flatMap ('/' :: ·) := by
    simp only [List.mem_append, List.mem_flatMap, List.mem_cons, not_or, not_exists, not_and]
    exact ⟨ht.top, fun part hpart => ⟨by decide, (h part hpart).2.2.2.2⟩⟩
  unfold written
  split
  · decide
  · rwa [intercalate_slash]

theorem byteLength_append (a b : Text) : byteLength (a ++ b) = byteLength a + byteLength b := by
  simp [byteLength, Text.Utf8.encode]

/-- A name in a directory further down is written no shorter. -/
theorem byteLength_written_le (hd : d <+: p) (name : Text) :
    byteLength (t.written (d ++ [name])) ≤ byteLength (t.written (p ++ [name])) := by
  obtain ⟨more, rfl⟩ := hd
  rw [written_eq (by simp), written_eq (by simp)]
  simp only [List.flatMap_append, byteLength_append]
  omega

/-- A location inside the tree that is reached by names. -/
def Location.Named : Location → Prop
  | .inside p => ∀ part ∈ p, IsName part
  | _ => True

theorem named_step {location : Location} (h : location.Named) {part : Text} (hslash : '/' ∉ part)
    (hzero : '\x00' ∉ part) : (location.step part).Named := by
  unfold Location.step
  split
  · exact h
  · next hkeep =>
    split
    · next hup =>
      split
      · trivial
      · next path _ =>
        intro name hname
        exact h name (List.mem_of_mem_dropLast hname)
      · trivial
    · next hdown =>
      split
      · next path =>
        intro name hname
        rcases List.mem_append.mp hname with hname | hname
        · exact h name hname
        · obtain rfl := List.mem_singleton.mp hname
          simp only [List.isEmpty_iff, Bool.or_eq_true, decide_eq_true_iff, not_or] at hkeep hdown
          exact ⟨hkeep.1, hkeep.2, hdown, hslash, hzero⟩
      · trivial

theorem named_foldl_step {parts : List Text} {location : Location} (h : location.Named)
    (hparts : ∀ part ∈ parts, '/' ∉ part ∧ '\x00' ∉ part) :
    (parts.foldl Location.step location).Named := by
  induction parts generalizing location with
  | nil => exact h
  | cons part rest ih =>
    rw [List.forall_mem_cons] at hparts
    exact ih (named_step h hparts.1.1 hparts.1.2) hparts.2

/-- A path without zero bytes that is written in a directory resolves to names. -/
theorem named_resolve (ht : t.WellFormed) {directory : Path} (hdirectory : t.lookup? directory ≠ none)
    {path : Text} (hzero : '\x00' ∉ path) : (t.resolve directory path).Named := by
  have horigin : (t.origin directory path).Named := by
    unfold origin
    split
    · split
      · exact fun part hpart => absurd hpart List.not_mem_nil
      · trivial
    · exact fun part hpart => ht.isName_of_mem hdirectory hpart
  refine named_foldl_step horigin fun part hpart => ⟨?_, ?_⟩
  · exact fun hslash => (Text.mem_of_mem_fields hpart hslash).2 rfl
  · exact fun hin => hzero (Text.mem_of_mem_fields hpart hin).1

/-- Too long to be looked up: the path as a whole, or a name that the walk comes to. -/
def TooLong (t : FileTree) (d : Path) (parts : List Text) : Prop :=
  maxPathBytes < byteLength (t.written (d ++ parts)) ∨ t.Overlong d parts

theorem byteLength_le_written {part : Text} (h : part ∈ p) :
    byteLength part ≤ byteLength (t.written p) := by
  obtain ⟨before, after, rfl⟩ := List.append_of_mem h
  rw [written_eq (by simp)]
  simp only [List.flatMap_append, List.flatMap_cons, byteLength_append]
  have hslash : byteLength ('/' :: part) = byteLength ['/'] + byteLength part :=
    byteLength_append ['/'] part
  omega

/-- A path that is no longer than a name may be is not too long in any way. -/
theorem not_tooLong_of_short {parts : List Text}
    (h : byteLength (t.written (d ++ parts)) ≤ maxNameBytes) : ¬ t.TooLong d parts := by
  rintro (hlong | ⟨before, part, hway, -, hlong⟩)
  · have hle : maxNameBytes ≤ maxPathBytes := by decide
    omega
  · have hpart : part ∈ d ++ parts := List.mem_append_right _ (hway.subset (by simp))
    have := byteLength_le_written (t := t) hpart
    omega

theorem vet_eq {path : Text} (hzero : '\x00' ∉ path) :
    vet path = if maxPathBytes < byteLength path then .error .nameTooLong else .ok () := by
  rw [vet, if_neg (by simpa using hzero)]

section

variable {parts : List Text}

theorem fileAt?_tooLong (ht : t.WellFormed) (hparts : ∀ part ∈ d ++ parts, IsName part)
    (h : t.TooLong d parts) :
    t.fileAt? (t.written (d ++ parts)) (.inside d) parts = .error .nameTooLong := by
  rw [fileAt?, vet_eq (zero_notMem_written ht hparts)]
  by_cases hlong : maxPathBytes < byteLength (t.written (d ++ parts))
  · rw [if_pos hlong]
    rfl
  · have hover := h.resolve_left hlong
    rw [if_neg hlong, Except.bind, (follow_inside ht fun part hpart =>
      hparts part (List.mem_append_right _ hpart)).1.mpr hover]

theorem fileAt?_of_not_tooLong (ht : t.WellFormed) (hparts : ∀ part ∈ d ++ parts, IsName part)
    (h : ¬ t.TooLong d parts) :
    t.fileAt? (t.written (d ++ parts)) (.inside d) parts = .ok (t.bytesAt? (d ++ parts)) := by
  obtain ⟨hshort, hover⟩ := not_or.mp h
  obtain ⟨hlong, hfile⟩ := follow_inside ht (d := d) fun part hpart =>
    hparts part (List.mem_append_right _ hpart)
  rw [fileAt?, vet_eq (zero_notMem_written ht hparts), if_neg hshort, Except.bind]
  cases hbytes : t.bytesAt? (d ++ parts) with
  | some bytes => rw [(hfile hover bytes).mpr (bytesAt?_eq_some_iff.mp hbytes)]
  | none =>
    split
    · next bytes hfound =>
      rw [bytesAt?_eq_some_iff.mpr ((hfile hover bytes).mp hfound)] at hbytes
      cases hbytes
    · next hfound => exact absurd (hlong.mp hfound) hover
    · rfl

end

theorem fields_flatMap_slash {first : Text} (hfirst : '/' ∉ first) (hp : ∀ part ∈ p, '/' ∉ part) :
    (first ++ p.flatMap ('/' :: ·)).fields '/' = first :: p := by
  induction p generalizing first with
  | nil => rw [List.flatMap_nil, List.append_nil, Text.fields_of_notMem hfirst]
  | cons part rest ih =>
    rw [List.forall_mem_cons] at hp
    rw [List.flatMap_cons, List.cons_append, Text.fields_append_separator hfirst, ih hp.1 hp.2]

section

variable {name : Text} (htop : t.top = []) (hnames : ∀ part ∈ d ++ [name], IsName part)
include htop hnames

theorem fields_written : (t.written (d ++ [name])).fields '/' = [] :: (d ++ [name]) := by
  rw [written_eq (by simp), htop]
  exact fields_flatMap_slash List.not_mem_nil fun part hpart => (hnames part hpart).2.2.2.1

theorem exists_written_eq : ∃ first rest, t.written (d ++ [name]) = '/' :: first :: rest ∧ first ≠ '/' := by
  obtain ⟨part, more, hparts⟩ := List.exists_cons_of_ne_nil (show d ++ [name] ≠ [] by simp)
  obtain ⟨hnonempty, -, -, hslash, -⟩ := hnames part (by rw [hparts]; exact List.mem_cons_self)
  obtain ⟨first, rest, rfl⟩ := List.exists_cons_of_ne_nil hnonempty
  refine ⟨first, rest ++ more.flatMap ('/' :: ·), ?_, Ne.symm (List.ne_of_not_mem_cons hslash)⟩
  rw [hparts, written_eq (by simp), htop]
  rfl

/-- A path written out from the very top has nothing to tidy. -/
theorem tidy_written : tidy (t.written (d ++ [name])) = t.written (d ++ [name]) := by
  have hparts : parts (t.written (d ++ [name])) = d ++ [name] := by
    rw [parts, fields_written htop hnames, List.filter_cons_of_neg (by simp), List.filter_eq_self]
    intro part hpart
    simp [(hnames part hpart).1, (hnames part hpart).2.1]
  obtain ⟨first, rest, hwritten, hfirst⟩ := exists_written_eq htop hnames
  have hslashes : leadingSlashes (t.written (d ++ [name])) = ['/'] := by
    rw [leadingSlashes, hwritten]
    simp [hfirst]
  rw [tidy, hparts, hslashes, if_neg (by simp), written, htop, if_neg (by simp)]
  obtain ⟨part, more, hparts⟩ := List.exists_cons_of_ne_nil (show d ++ [name] ≠ [] by simp)
  rw [hparts, List.intercalate_cons_cons]
  rfl

/-- A file of the whole file system is read by its full path. -/
theorem read_written (ht : t.WellFormed) (hfile : t.lookup? (d ++ [name]) = some (.file bytes))
    (hshort : ¬ t.TooLong d [name]) (hover : ¬ t.Overlong [] d) (directory : Path) :
    t.read directory (t.written (d ++ [name])) = .ok bytes := by
  obtain ⟨hlength, hname⟩ := not_or.mp hshort
  have hnever : ¬ t.Overlong [] (d ++ [name]) := by
    rintro ⟨before, part, hway, hbefore, hlong⟩
    rcases List.prefix_concat_iff.mp hway with hall | hway
    · obtain ⟨rfl, hpart⟩ := List.append_inj' hall rfl
      obtain rfl := List.singleton_inj.mp hpart
      exact hname ⟨[], part, List.prefix_rfl, by rwa [List.append_nil], hlong⟩
    · exact hover ⟨before, part, hway, hbefore, hlong⟩
  have hfollow := ((follow_inside ht (d := []) hnames).2 hnever bytes).mpr hfile
  obtain ⟨first, rest, hwritten, -⟩ := exists_written_eq htop hnames
  have horigin : t.origin directory (t.written (d ++ [name])) = .inside [] := by
    rw [origin, hwritten, htop]
    rfl
  have hstep : t.follow (.inside []) ([] :: (d ++ [name])) = .ok (.file bytes) := by
    rw [follow_cons, ht.lookup?_root]
    exact hfollow
  rw [read, stat, vet_eq (zero_notMem_written ht hnames), if_neg hlength,
    if_neg (by rw [hwritten]; exact Bool.false_ne_true), fields_written htop hnames, horigin, hstep]
  rfl

end

/-- A file that gets other contents changes nothing else. -/
theorem lookup?_place {old : List UInt8} (h : t.lookup? p = some (.file old)) :
    (t.place p (.file bytes)).lookup? q = if q = p then some (.file bytes) else t.lookup? q := by
  by_cases hq : q = p
  · rw [if_pos hq, hq]
    exact lookup?_of_lookup List.lookup_cons_self
  · rw [if_neg hq]
    have hb : (q == p) = false := beq_false_of_ne hq
    have hsame : (t.place p (.file bytes)).entries.lookup q = t.entries.lookup q := by
      rw [place, List.lookup_cons, hb]
    cases hentry : t.entries.lookup q with
    | some node => rw [lookup?_of_lookup hentry, lookup?_of_lookup (hsame.trans hentry)]
    | none =>
      -- The file was an entry before, so there is no more on the way to entries than there was.
      have hway : (∃ entry ∈ (t.place p (.file bytes)).entries, q <+: entry.1) ↔
          ∃ entry ∈ t.entries, q <+: entry.1 := by
        simp only [place, List.mem_cons, exists_eq_or_imp, or_iff_right_iff_imp]
        exact fun hprefix => ⟨_, mem_of_lookup (lookup?_file_iff.mp h), hprefix⟩
      rw [lookup?_of_lookup_none hentry, lookup?_of_lookup_none (hsame.trans hentry)]
      simp only [hway]

end

end Pinpoint.FileTree

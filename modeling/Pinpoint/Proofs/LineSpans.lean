import Pinpoint.Proofs.Lines
import Pinpoint.Snippet.Basic

/-!
# Lines as spans of a text

A piece is found by counting. The positions with as many newlines before them as the
start of the piece are those from its start to its end.

`SpansLine` says which positions a line holds: those from its start up to the
newline that ends it, or up to the end of the text. These spans follow each other
without a gap, so a position has exactly one line, and the lines with their
newlines make up the text again.
-/

namespace Pinpoint

namespace Text

theorem slice_natCast (t : Text) (start stop : Nat) :
    t.slice start stop = (t.take stop).drop start := by
  have hcut (k : Nat) : cut t.length k = min k t.length := by
    unfold cut
    split <;> omega
  have hstop : t.take (min stop t.length) = t.take stop := List.take_eq_take_min.symm
  rw [slice, hcut, hcut, hstop]
  rcases Nat.le_total start t.length with h | h
  · rw [Nat.min_eq_left h]
  · rw [Nat.min_eq_right h, List.drop_of_length_le (List.length_take_le' _ _),
      List.drop_of_length_le ((List.length_take_le' _ _).trans h)]

theorem lineEnd_of_le {t : Text} {o : Nat} (h : o ≤ t.length) :
    t.lineEnd o = o + ((t.drop o).takeWhile (· ≠ '\n')).length := by
  simp only [lineEnd, cut_ofNat h]

theorem slice_lineEnd {t : Text} {o : Nat} (h : o ≤ t.length) :
    t.slice o (t.lineEnd o) = (t.drop o).takeWhile (· ≠ '\n') := by
  rw [slice_natCast, lineEnd_of_le h, List.drop_take, Nat.add_sub_cancel_left]
  exact (List.prefix_iff_eq_take.mp (List.takeWhile_prefix _)).symm

theorem lineNumberAt_of_le {t : Text} {i : Nat} (h : i ≤ t.length) :
    t.lineNumberAt i = (t.take i).count '\n' + 1 := by
  rw [lineNumberAt, cut_ofNat h]

/-- Later positions are in later lines. -/
theorem lineNumberAt_mono {t : Text} {i j : Nat} (h : i ≤ j) (hj : j ≤ t.length) :
    t.lineNumberAt i ≤ t.lineNumberAt j := by
  rw [lineNumberAt_of_le (h.trans hj), lineNumberAt_of_le hj]
  exact Nat.succ_le_succ ((List.take_sublist_take_left h).count_le '\n')

theorem le_lineEnd {t : Text} {o : Nat} (h : o ≤ t.length) : o ≤ t.lineEnd o := by
  rw [lineEnd_of_le h]
  exact Nat.le_add_right _ _

/-- A line ends before the first newline behind its start. -/
theorem newline_notMem_to_lineEnd {t : Text} {o : Nat} (h : o ≤ t.length) :
    '\n' ∉ (t.take (t.lineEnd o)).drop o := by
  rw [← slice_natCast, slice_lineEnd h]
  intro hmem
  simpa using List.mem_takeWhile_imp hmem

theorem getElem?_lineEnd {t : Text} {o : Nat} (h : o ≤ t.length) (hlt : t.lineEnd o < t.length) :
    t[t.lineEnd o]? = some '\n' := by
  have hend := lineEnd_of_le h
  have hsplit := List.takeWhile_append_dropWhile (p := fun c : Char => c ≠ '\n') (l := t.drop o)
  have hhead := List.head?_dropWhile_not (fun c : Char => c ≠ '\n') (t.drop o)
  generalize (t.drop o).takeWhile (· ≠ '\n') = line at hend hsplit
  generalize (t.drop o).dropWhile (· ≠ '\n') = rest at hsplit hhead
  have hlength := congrArg List.length hsplit
  rw [List.length_append, List.length_drop] at hlength
  rw [hend, ← List.getElem?_drop, ← hsplit, List.getElem?_append_right (Nat.le_refl _), Nat.sub_self,
    ← List.head?_eq_getElem?]
  cases rest with
  | nil =>
    rw [List.length_nil] at hlength
    omega
  | cons c rest => simpa using hhead

/-- Along a stretch without newlines none is counted. -/
theorem count_take_of_notMem {t : Text} {s e i : Nat} (h : '\n' ∉ (t.take e).drop s) (hfrom : s ≤ i)
    (hto : i ≤ e) : (t.take i).count '\n' = (t.take s).count '\n' := by
  have hnone : ((t.take i).drop s).count '\n' = 0 := by
    rw [List.count_eq_zero]
    intro hmem
    exact h (((List.take_sublist_take_left hto).drop s).mem hmem)
  rw [← List.take_append_drop s (t.take i), List.count_append, hnone, List.take_take,
    Nat.min_eq_left hfrom, Nat.add_zero]

/-- A newline is counted behind its position, but not before it. -/
theorem count_take_lt {t : Text} {j k : Nat} (hnewline : t[j]? = some '\n') (hlt : j + 1 ≤ k) :
    (t.take j).count '\n' < (t.take k).count '\n' := by
  have hmono := (List.take_sublist_take_left (l := t) hlt).count_le '\n'
  rw [List.take_add_one, hnewline, List.count_append, Option.toList_some,
    List.count_singleton_self] at hmono
  exact hmono

/-- A piece with `n` newlines before it begins at the offset `o`. Other than a line it can
be the empty piece behind a final newline. -/
structure BeginsPiece (t : Text) (n o : Nat) : Prop where
  within : o ≤ t.length
  newlines : (t.take o).count '\n' = n
  fresh : o = 0 ∨ t[o - 1]? = some '\n'

theorem BeginsLine.beginsPiece {t : Text} {n o : Nat} (h : t.BeginsLine n o) : t.BeginsPiece n o :=
  ⟨Nat.le_of_lt h.inside, h.newlines, h.fresh⟩

theorem beginsPiece_pieceBegin {t : Text} {n : Nat} (h : n < t.lines.length) :
    t.BeginsPiece n (t.pieceBegin n) := by
  have hfirst (t : Text) : t.BeginsPiece 0 (t.pieceBegin 0) := ⟨Nat.zero_le _, rfl, Or.inl rfl⟩
  induction t using line_induction generalizing n with
  | unfinished l hl =>
    rw [lines_unfinished hl, List.length_singleton, Nat.lt_one_iff] at h
    rw [h]
    exact hfirst l
  | finished l rest hl ih =>
    cases n with
    | zero => exact hfirst _
    | succ n =>
      rw [lines_finished hl, List.length_cons, Nat.succ_lt_succ_iff] at h
      obtain ⟨hwithin, hnewlines, hfresh⟩ := ih h
      rw [pieceBegin_finished hl]
      refine ⟨?_, ?_, Or.inr ?_⟩
      · rw [List.length_append, List.length_cons]
        omega
      · rw [count_take_behind hl, hnewlines]
      · rcases Nat.eq_zero_or_pos (rest.pieceBegin n) with hzero | hpos
        · rw [hzero, Nat.add_zero, Nat.add_sub_cancel, List.getElem?_append_right (Nat.le_refl _),
            Nat.sub_self]
          rfl
        · rw [show l.length + 1 + rest.pieceBegin n - 1 = l.length + 1 + (rest.pieceBegin n - 1) by
            omega, getElem?_behind]
          exact hfresh.resolve_left (Nat.ne_of_gt hpos)

theorem beginsPiece_lineBegin (t : Text) (position : Int) :
    t.BeginsPiece (t.lineNumberAt position - 1) (t.lineBegin position) := by
  refine ⟨(t.lineBegin_le_cut position).trans (cut_le _ _), ?_, t.lineBegin_fresh position⟩
  rw [← count_take_lineBegin, Nat.add_sub_cancel]

namespace BeginsPiece

variable {t : Text} {n o : Nat}

theorem pieceBegin_eq (h : t.BeginsPiece n o) : t.pieceBegin n = o := by
  rw [← h.newlines]
  exact pieceBegin_of_fresh h.within h.fresh

theorem getElem?_lines (h : t.BeginsPiece n o) : t.lines[n]? = some (t.slice o (t.lineEnd o)) := by
  rw [slice_lineEnd h.within, ← head?_lines, lines_drop h.within h.fresh, h.newlines,
    List.head?_drop]

/-- A piece ends behind its characters. -/
theorem lineEnd_eq (h : t.BeginsPiece n o) {line : Text} (hline : t.lines[n]? = some line) :
    t.lineEnd o = o + line.length := by
  obtain rfl := Option.some.inj (h.getElem?_lines.symm.trans hline)
  rw [slice_lineEnd h.within, lineEnd_of_le h.within]

theorem count_take (h : t.BeginsPiece n o) {i : Nat} (hfrom : o ≤ i) (hto : i ≤ t.lineEnd o) :
    (t.take i).count '\n' = n := by
  rw [count_take_of_notMem (newline_notMem_to_lineEnd h.within) hfrom hto, h.newlines]

/-- The positions with as many newlines before them are those from the start of the piece
to its end. -/
theorem count_take_eq_iff (h : t.BeginsPiece n o) {i : Nat} (hi : i ≤ t.length) :
    (t.take i).count '\n' = n ↔ o ≤ i ∧ i ≤ t.lineEnd o := by
  constructor
  · intro hcount
    constructor
    · by_contra hbefore
      have hpos : o - 1 + 1 = o := by omega
      have hmore := count_take_lt (h.fresh.resolve_left (by omega)) (Nat.le_of_eq hpos)
      have hmono := (List.take_sublist_take_left (l := t) (show i ≤ o - 1 by omega)).count_le '\n'
      rw [h.newlines] at hmore
      omega
    · by_contra hbehind
      have hmore := count_take_lt (getElem?_lineEnd h.within (by omega)) (show t.lineEnd o + 1 ≤ i by omega)
      rw [h.count_take (le_lineEnd h.within) (Nat.le_refl _)] at hmore
      omega
  · intro hspan
    exact h.count_take hspan.1 hspan.2

end BeginsPiece

/-- A position lies between the ends of its line. -/
theorem lineBegin_le_and_le_lineEnd {t : Text} {i : Nat} (h : i ≤ t.length) :
    t.lineBegin i ≤ i ∧ i ≤ t.lineEnd (t.lineBegin i) := by
  rw [← (t.beginsPiece_lineBegin i).count_take_eq_iff h, lineNumberAt_of_le h, Nat.add_sub_cancel]

theorem BeginsLine.getElem?_lines {t : Text} {n o : Nat} (h : BeginsLine t n o) :
    t.lines[n]? = some ((t.drop o).takeWhile (· ≠ '\n')) := by
  rw [h.beginsPiece.getElem?_lines, slice_lineEnd h.beginsPiece.within]

theorem BeginsLine.lineEnd_eq {t line : Text} {n o : Nat} (h : BeginsLine t n o)
    (hline : t.lines[n]? = some line) : t.lineEnd o = o + line.length :=
  h.beginsPiece.lineEnd_eq hline

theorem BeginsLine.lineNumberAt_eq {t : Text} {n o : Nat} (h : BeginsLine t n o) :
    t.lineNumberAt o = n + 1 := by
  rw [lineNumberAt_of_le (Nat.le_of_lt h.inside), h.newlines]

/-- A line with `n` newlines before it holds the positions from `s` to `e`. At `e`
stands the newline that ends it, unless the text ends there. -/
structure SpansLine (t : Text) (n s e : Nat) : Prop where
  begins : BeginsLine t n s
  ordered : s ≤ e
  within : e ≤ t.length
  unbroken : '\n' ∉ (t.take e).drop s
  ended : e < t.length → t[e]? = some '\n'

theorem BeginsLine.spansLine {t : Text} {n s : Nat} (h : BeginsLine t n s) :
    SpansLine t n s (t.lineEnd s) :=
  have hin := Nat.le_of_lt h.inside
  ⟨h, le_lineEnd hin, lineEnd_le _ _, newline_notMem_to_lineEnd hin, getElem?_lineEnd hin⟩

namespace SpansLine

variable {t : Text} {n s e : Nat}

/-- Every position of a line has the line's number of newlines before it. -/
theorem count_take (h : SpansLine t n s e) {i : Nat} (hfrom : s ≤ i) (hto : i ≤ e) :
    (t.take i).count '\n' = n := by
  rw [count_take_of_notMem h.unbroken hfrom hto, h.begins.newlines]

theorem lineNumberAt_eq (h : SpansLine t n s e) {i : Nat} (hfrom : s ≤ i) (hto : i ≤ e) :
    t.lineNumberAt i = n + 1 := by
  rw [lineNumberAt_of_le (hto.trans h.within), h.count_take hfrom hto]

/-- Behind the newline that ends a line begins the next one, if a character follows. -/
theorem begins_next (h : SpansLine t n s e) (hmore : e + 1 < t.length) :
    BeginsLine t (n + 1) (e + 1) := by
  have hnewline := h.ended (by omega)
  refine ⟨hmore, ?_, Or.inr hnewline⟩
  rw [List.take_add_one, hnewline, List.count_append, h.count_take h.ordered (Nat.le_refl e)]
  rfl

/-- A line is followed by another one exactly if a character stands behind its end. -/
theorem lt_lineCount_iff (h : SpansLine t n s e) : n + 1 < t.lineCount ↔ e + 1 < t.length := by
  constructor
  · intro hlt
    obtain ⟨o, ho⟩ := exists_beginsLine_iff.mpr hlt
    have hin := ho.inside
    -- The next line begins behind a newline, and the first one from `s` on stands at `e`.
    have hbehind : e < o := by
      by_contra hle
      have hsame := h.count_take (Nat.le_of_lt (h.begins.lt_of_lt ho (Nat.lt_succ_self n)))
        (Nat.le_of_not_lt hle)
      rw [ho.newlines] at hsame
      omega
    omega
  · intro hmore
    exact exists_beginsLine_iff.mp ⟨e + 1, h.begins_next hmore⟩

end SpansLine

/-- Later lines end later. -/
theorem BeginsLine.lineEnd_le_of_le {t : Text} {m n a b : Nat} (ha : BeginsLine t m a)
    (hb : BeginsLine t n b) (hmn : m ≤ n) : t.lineEnd a ≤ t.lineEnd b := by
  rcases Nat.lt_or_eq_of_le hmn with hlt | rfl
  · -- The start of the later line is no position of the earlier one.
    have hbehind : t.lineEnd a < b := by
      by_contra hwithin
      have hnumber := ha.spansLine.lineNumberAt_eq (ha.le_of_le hb hmn) (Nat.le_of_not_lt hwithin)
      rw [hb.lineNumberAt_eq] at hnumber
      omega
    exact (Nat.le_of_lt hbehind).trans hb.spansLine.ordered
  · rw [ha.unique hb]

/-- Every position of the text is in the line that has its number. -/
theorem exists_spansLine_of_lt {t : Text} {i : Nat} (hi : i < t.length) :
    ∃ s, SpansLine t (t.lineNumberAt i - 1) s (t.lineEnd s) ∧ s ≤ i ∧ i ≤ t.lineEnd s := by
  obtain ⟨hfrom, hto⟩ := lineBegin_le_and_le_lineEnd (Nat.le_of_lt hi)
  obtain ⟨-, hnewlines, hfresh⟩ := t.beginsPiece_lineBegin i
  have hbegins : BeginsLine t (t.lineNumberAt i - 1) (t.lineBegin i) :=
    ⟨hfrom.trans_lt hi, hnewlines, hfresh⟩
  exact ⟨_, hbegins.spansLine, hfrom, hto⟩

/-- A line with the newline that ends it; nothing where the text has no such line. -/
def wholeLine (t : Text) (line : Nat) : Text :=
  match t.lineStart? line with
  | some start => t.slice start (t.lineEnd start + 1 : Nat)
  | none => []

theorem BeginsLine.wholeLine_eq {t : Text} {n o : Nat} (h : BeginsLine t n o) :
    t.wholeLine (n + 1) = (t.take (t.lineEnd o + 1)).drop o := by
  simp only [wholeLine, h.lineStart?_eq, slice_natCast]

/-- The lines before a line make up the text before it. -/
theorem BeginsLine.flatMap_wholeLine {t : Text} {n o : Nat} (h : BeginsLine t n o) :
    (List.range' 1 n).flatMap t.wholeLine = t.take o := by
  induction n generalizing o with
  | zero =>
    obtain ⟨rfl, -⟩ := beginsLine_zero_iff.mp h
    rfl
  | succ n ih =>
    have hlt : n + 1 < t.lineCount := exists_beginsLine_iff.mp ⟨o, h⟩
    obtain ⟨p, hp⟩ := exists_beginsLine_iff.mpr (Nat.lt_of_succ_lt hlt)
    have hspans := hp.spansLine
    obtain rfl : o = t.lineEnd p + 1 :=
      h.unique (hspans.begins_next (hspans.lt_lineCount_iff.mp hlt))
    have hsplit := List.take_append_drop p (t.take (t.lineEnd p + 1))
    rw [List.take_take, Nat.min_eq_left (Nat.le_succ_of_le hspans.ordered)] at hsplit
    rw [List.range'_concat, List.flatMap_append, ih hp, Nat.one_mul, Nat.add_comm 1 n,
      List.flatMap_singleton, hp.wholeLine_eq, hsplit]

/-- All lines with their newlines are the text. -/
theorem flatMap_wholeLine (t : Text) :
    (List.range' 1 t.lineCount).flatMap t.wholeLine = t := by
  cases hcount : t.lineCount with
  | zero =>
    have hnone : t = [] := by
      by_contra hne
      have hfirst := exists_beginsLine_iff.mp ⟨0, beginsLine_zero_iff.mpr ⟨rfl, hne⟩⟩
      omega
    rw [hnone]
    rfl
  | succ n =>
    obtain ⟨o, ho⟩ := exists_beginsLine_iff.mpr (show n < t.lineCount by omega)
    have hspans := ho.spansLine
    have hover : t.length ≤ t.lineEnd o + 1 := by
      have hlast := hspans.lt_lineCount_iff
      omega
    rw [List.range'_concat, List.flatMap_append, ho.flatMap_wholeLine, Nat.one_mul,
      Nat.add_comm 1 n, List.flatMap_singleton, ho.wholeLine_eq, List.take_of_length_le hover,
      List.take_append_drop]

theorem HasLine.exists_beginsLine {t : Text} {line : Int} (h : t.HasLine line) :
    ∃ n o : Nat, line = (n + 1 : Nat) ∧ BeginsLine t n o := by
  obtain ⟨hfirst, hlast⟩ := h
  obtain ⟨o, ho⟩ := exists_beginsLine_iff.mpr (show (line - 1).toNat < t.lineCount by omega)
  exact ⟨(line - 1).toNat, o, by omega, ho⟩

/-- The lines lie side by side. The first begins with the text, each next one right
behind the end of the line before, and the last ends with the text or one newline
earlier; no newline stands inside a line. So the lines make up the text, and a
position and the number of its line determine each other. -/
theorem lines_tile (t : Text) :
    (t ≠ [] → t.lineStart? 1 = some 0) ∧
    (∀ n : Int, t.HasLine n → ∃ s, t.lineStart? n = some s ∧
      '\n' ∉ t.slice s (t.lineEnd s) ∧
      (n < t.lineCount → t.lineStart? (n + 1) = some (t.lineEnd s + 1)) ∧
      (n = t.lineCount → t.lineEnd s = t.length ∨ t.lineEnd s + 1 = t.length) ∧
      ∀ i : Nat, s ≤ i → i ≤ t.lineEnd s → t.lineNumberAt i = n) ∧
    (List.range' 1 t.lineCount).flatMap t.wholeLine = t ∧
    ∀ i : Nat, i < t.length → t.HasLine (t.lineNumberAt i) ∧
      ∃ s, t.lineStart? (t.lineNumberAt i) = some s ∧ s ≤ i ∧ i ≤ t.lineEnd s := by
  refine ⟨?_, ?_, t.flatMap_wholeLine, ?_⟩
  · intro hne
    exact (beginsLine_zero_iff.mpr ⟨rfl, hne⟩).lineStart?_eq
  · intro line hline
    obtain ⟨n, s, rfl, hbegins⟩ := hline.exists_beginsLine
    have hspans := hbegins.spansLine
    have hmore := hspans.lt_lineCount_iff
    refine ⟨s, hbegins.lineStart?_eq, ?_, ?_, ?_, ?_⟩
    · rw [slice_natCast]
      exact hspans.unbroken
    · intro hlt
      exact (hspans.begins_next (hmore.mp (by omega))).lineStart?_eq
    · intro hlast
      have hwithin := hspans.within
      omega
    · intro i hfrom hto
      rw [hspans.lineNumberAt_eq hfrom hto]
  · intro i hi
    obtain ⟨s, hspans, hfrom, hto⟩ := exists_spansLine_of_lt hi
    have hstart := hspans.begins.lineStart?_eq
    have hnumber : t.lineNumberAt i - 1 + 1 = t.lineNumberAt i := rfl
    rw [hnumber] at hstart
    exact ⟨hasLine_of_lineStart? hstart, s, hstart, hfrom, hto⟩

/-- Three lines, the first and the last of them empty. -/
theorem lines_tile_blank_ends :
    let t : Text := ['\n', 'a', '\r', '\n', '\n']
    t.HasLine 2 ∧ t.lineStart? 3 = some (t.lineEnd 1 + 1) ∧
    (List.range' 1 3).flatMap t.wholeLine = t ∧
    ∃ s, t.lineStart? (t.lineNumberAt 4) = some s ∧ s ≤ 4 ∧ 4 ≤ t.lineEnd s := by
  intro t
  obtain ⟨-, hlines, hwhole, hposition⟩ := lines_tile t
  have htwo : t.HasLine 2 := by decide
  obtain ⟨s, hs, -, hnext, -⟩ := hlines 2 htwo
  obtain rfl : 1 = s := Option.some.inj ((by decide : t.lineStart? 2 = some 1).symm.trans hs)
  exact ⟨htwo, hnext (by decide), hwhole, (hposition 4 (by decide)).2⟩

end Text

namespace Snippet

theorem LineOffset.ofLine_eq_resolved_iff {t : Text} {line offset : Int} :
    LineOffset.ofLine t (some line) = .resolved offset ↔
      ∃ o : Nat, t.lineStart? line = some o ∧ offset = o := by
  unfold LineOffset.ofLine
  cases h : t.lineStart? line with
  | none => simp [h]
  | some o => simp [h, eq_comm]

theorem LineOffset.ofLine_eq_invalid_iff {t : Text} {line : Option Int} :
    LineOffset.ofLine t line = .invalid ↔ ∀ n ∈ line, ¬ t.HasLine n := by
  unfold LineOffset.ofLine
  cases line with
  | none => simp
  | some n =>
    rw [Option.bind_some]
    cases h : t.lineStart? n with
    | none => simp [← Text.lineStart?_isSome_iff, h]
    | some o => simp [← Text.lineStart?_isSome_iff, h]

/-- A resolved offset is where its line begins, which is one position only, and a
line is resolved exactly if the text has it. Later lines are resolved to later
offsets, and both ends of a snippet are resolved in this way. -/
theorem resolve_exact (t : Text) :
    (∀ line offset : Int, LineOffset.ofLine t (some line) = .resolved offset ↔
      t.HasLine line ∧ ∃ o : Nat, offset = o ∧ t.BeginsLine (line - 1).toNat o) ∧
    (∀ line : Int, t.HasLine line → ∃! o, t.BeginsLine (line - 1).toNat o) ∧
    (∀ line, LineOffset.ofLine t line = .invalid ↔ ∀ n ∈ line, ¬ t.HasLine n) ∧
    (∀ m n a b : Int, m < n → LineOffset.ofLine t (some m) = .resolved a →
      LineOffset.ofLine t (some n) = .resolved b → a < b) ∧
    ∀ s : Snippet, s.text = t →
      s.resolve.start = .ofLine t s.startLine ∧ s.resolve.stop = .ofLine t s.stopLine := by
  refine ⟨?_, ?_, fun _ => LineOffset.ofLine_eq_invalid_iff, ?_, ?_⟩
  · intro line offset
    rw [LineOffset.ofLine_eq_resolved_iff]
    constructor
    · rintro ⟨o, hstart, rfl⟩
      exact ⟨Text.hasLine_of_lineStart? hstart, o, rfl,
        (Text.lineStart?_eq_some_iff.mp hstart).2⟩
    · rintro ⟨hline, o, rfl, hbegins⟩
      exact ⟨o, Text.lineStart?_eq_some_iff.mpr ⟨hline.1, hbegins⟩, rfl⟩
  · intro line hline
    obtain ⟨n, o, rfl, hbegins⟩ := hline.exists_beginsLine
    rw [show ((n + 1 : Nat) - 1 : Int).toNat = n by omega]
    exact ⟨o, hbegins, fun p hp => hp.unique hbegins⟩
  · intro m n a b hlt ha hb
    obtain ⟨o, hstart, rfl⟩ := LineOffset.ofLine_eq_resolved_iff.mp ha
    obtain ⟨p, hstop, rfl⟩ := LineOffset.ofLine_eq_resolved_iff.mp hb
    obtain ⟨hm, ho⟩ := Text.lineStart?_eq_some_iff.mp hstart
    obtain ⟨-, hp⟩ := Text.lineStart?_eq_some_iff.mp hstop
    exact Int.ofNat_lt.mpr (ho.lt_of_lt hp (by omega))
  · rintro s rfl
    exact ⟨rfl, rfl⟩

/-- The second line of this text is empty, and the newline that ends it ends the text. -/
theorem resolve_exact_final_newlines :
    let t : Text := ['a', '\n', '\n']
    let s : Snippet := { text := t, startLine := some 1, stopLine := some 2 }
    (t.HasLine 2 ∧ ∃! o, t.BeginsLine (2 - 1 : Int).toNat o) ∧
    LineOffset.ofLine t (some 3) = .invalid ∧
    s.resolve.start = .resolved 0 ∧ s.resolve.stop = .resolved 2 ∧ (0 : Int) < 2 := by
  intro t s
  obtain ⟨-, hunique, hinvalid, hmono, hresolve⟩ := resolve_exact t
  obtain ⟨hstart, hstop⟩ := hresolve s rfl
  have hone : LineOffset.ofLine t (some 1) = .resolved 0 := by decide
  have htwo : LineOffset.ofLine t (some 2) = .resolved 2 := by decide
  exact ⟨⟨by decide, hunique 2 (by decide)⟩, (hinvalid (some 3)).mpr (by decide),
    hstart.trans hone, hstop.trans htwo, hmono 1 2 0 2 (by decide) hone htwo⟩

end Snippet

end Pinpoint

import Mathlib.Algebra.BigOperators.Intervals
import Mathlib.Order.Interval.Finset.Nat
import Pinpoint.Proofs.Printout

/-!
# The markers under the lines

Under each line stands one marker for each character of the region that the line
holds. Newlines are not marked, and no row stands under a line that holds nothing else.
A position has one line number, so the positions that can be marked are counted line by
line without loss. A region without such a position has one marker, under its first line.
-/

namespace Pinpoint

namespace Text

/-- A piece holds the characters that have its number of newlines before them and are
no newline themselves. -/
theorem mem_piece_iff {t line : Text} {n i : Nat} (h : t.lines[n]? = some line) :
    i < t.length ∧ t[i]? ≠ some '\n' ∧ (t.take i).count '\n' = n ↔
      t.pieceBegin n ≤ i ∧ i < t.pieceBegin n + line.length := by
  obtain ⟨hlt, -⟩ := List.getElem?_eq_some_iff.mp h
  have hb := beginsPiece_pieceBegin hlt
  have hline := hb.getElem?_lines
  have hend := hb.lineEnd_eq h
  have hin := t.lineEnd_le (t.pieceBegin n)
  rw [← hend]
  constructor
  · intro hi
    obtain ⟨hwithin, hchar, hcount⟩ := hi
    obtain ⟨hfrom, hto⟩ := (hb.count_take_eq_iff (Nat.le_of_lt hwithin)).mp hcount
    have hother : i ≠ t.lineEnd (t.pieceBegin n) := by
      intro heq
      rw [heq] at hwithin hchar
      exact hchar (getElem?_lineEnd hb.within hwithin)
    omega
  · intro hi
    obtain ⟨hfrom, hto⟩ := hi
    refine ⟨by omega, ?_, hb.count_take hfrom (Nat.le_of_lt hto)⟩
    intro hnewline
    -- It would be one of the characters of the piece.
    apply newline_notMem_to_lineEnd hb.within
    apply List.mem_of_getElem? (i := i - t.pieceBegin n)
    rw [List.getElem?_drop, Nat.add_sub_cancel' hfrom, List.getElem?_take_of_lt hto, hnewline]

end Text

namespace Excerpt

/-- The positions of a region that can be marked. -/
def visible (t : Text) (start stop : Nat) : Finset Nat :=
  (Finset.Ico start stop).filter fun i => t[i]? ≠ some '\n'

/-- The ones that the line of this number holds. -/
def held (t : Text) (start stop number : Nat) : Finset Nat :=
  (visible t start stop).filter fun i => t.lineNumberAt i = number

variable {t : Text} {start stop : Nat}

theorem slice_succ (hle : start ≤ stop) (hin : stop < t.length) :
    t.slice start (stop + 1 : Nat) = t.slice start stop ++ [t[stop]] := by
  rw [Text.slice_natCast, Text.slice_natCast, List.take_add_one, List.getElem?_eq_getElem hin,
    Option.toList_some, List.drop_append_of_le_length]
  rw [List.length_take]
  omega

theorem card_visible (hle : start ≤ stop) (hin : stop ≤ t.length) :
    (visible t start stop).card = (t.slice start stop).countP (· ≠ '\n') := by
  induction stop, hle using Nat.le_induction with
  | base =>
    rw [visible, Finset.Ico_self, Finset.filter_empty, Finset.card_empty, Text.slice_natCast,
      List.drop_of_length_le (List.length_take_le _ _), List.countP_nil]
  | succ stop hle ih =>
    have hchar : t[stop]? = some t[stop] := List.getElem?_eq_getElem hin
    have hfresh : stop ∉ visible t start stop := by simp [visible]
    have hmore : visible t start (stop + 1) =
        if t[stop] = '\n' then visible t start stop else insert stop (visible t start stop) := by
      rw [visible, Nat.Ico_succ_right_eq_insert_Ico hle, Finset.filter_insert, hchar, visible]
      by_cases hnew : t[stop] = '\n' <;> simp [hnew]
    rw [slice_succ hle hin, List.countP_append, ← ih (Nat.le_of_lt hin), hmore]
    by_cases hnew : t[stop] = '\n'
    · simp [hnew]
    · rw [if_neg hnew, Finset.card_insert_of_notMem hfresh]
      simp [hnew]

theorem isPoint_iff (start stop : Int) :
    isPoint t start stop = true ↔ (t.slice start stop).countP (· ≠ '\n') = 0 := by
  simp [isPoint, List.countP_eq_zero]

theorem visible_eq_empty (hle : start ≤ stop) (hin : stop ≤ t.length)
    (hpoint : isPoint t start stop = true) : visible t start stop = ∅ := by
  rwa [← Finset.card_eq_zero, card_visible hle hin, ← isPoint_iff]

/-- The line of this number holds one stretch of the marked positions. -/
theorem held_eq_Ico (hin : stop ≤ t.length) {n : Nat} {line : Text}
    (hline : t.lines[n]? = some line) :
    held t start stop (n + 1) =
      Finset.Ico (max start (t.pieceBegin n)) (min stop (t.pieceBegin n + line.length)) := by
  apply Finset.ext
  intro i
  have hpiece := Text.mem_piece_iff (i := i) hline
  rw [held, Finset.mem_filter, visible, Finset.mem_filter, Finset.mem_Ico, Finset.mem_Ico]
  constructor
  · intro h
    obtain ⟨⟨hregion, hchar⟩, hnumber⟩ := h
    rw [Text.lineNumberAt_of_le (by omega), Nat.succ_inj] at hnumber
    have hspan := hpiece.mp ⟨by omega, hchar, hnumber⟩
    omega
  · intro hi
    obtain ⟨hlt, hchar, hcount⟩ := hpiece.mpr (by omega)
    refine ⟨⟨by omega, hchar⟩, ?_⟩
    show t.lineNumberAt i = n + 1
    rw [Text.lineNumberAt_of_le (Nat.le_of_lt hlt), hcount]

/-- Each marked position is held by one of the lines that are shown, so none is lost
and none is counted twice. -/
theorem sum_card_held (hle : start ≤ stop) (hin : stop ≤ t.length) :
    ((shownNumbers t start stop).map fun number => (held t start stop number).card).sum =
      (visible t start stop).card := by
  have hshown : Set.MapsTo (fun i : Nat => t.lineNumberAt i) (visible t start stop)
      (shownNumbers t start stop).toFinset := by
    intro i hi
    have hregion := Finset.mem_Ico.mp (Finset.mem_filter.mp hi).1
    have hfrom : t.lineNumberAt start ≤ t.lineNumberAt i :=
      Text.lineNumberAt_mono hregion.1 (by omega)
    have hto : t.lineNumberAt i ≤ lastShown t start stop := by
      rw [lastShown_eq hle hin, if_pos (by omega)]
      exact Text.lineNumberAt_mono (by omega) (by omega)
    rw [Finset.mem_coe, List.mem_toFinset, mem_shownNumbers]
    exact ⟨hfrom, hto⟩
  have hdistinct : (shownNumbers t start stop).Nodup := List.nodup_range'
  rw [Finset.card_eq_sum_card_fiberwise hshown, List.sum_toFinset _ hdistinct]
  rfl

/-- The columns in front of the markers of a line at `b`, and the number of its markers. -/
theorem toNat_columns (start stop : Nat) (point : Bool) (b length : Nat) :
    (columns start stop point b length).1.toNat = max start b - b ∧
      ((columns start stop point b length).2 - (columns start stop point b length).1).toNat =
        if point then 1 else min stop (b + length) - max start b := by
  simp only [columns]
  cases point
  · simp only [Bool.false_eq_true, if_false]
    omega
  · simp only [if_true]
    omega

/-- The row of this many markers, if there are any. -/
def underline (pad : Text) (count : Nat) : List Row :=
  if count = 0 then [] else [.mark pad count]

theorem markRow_eq_underline (source : Text) (columns : Int × Int) :
    markRow source columns =
      underline (padding (source.take columns.1.toNat)) (columns.2 - columns.1).toNat := by
  by_cases h : columns.1 < columns.2
  · rw [markRow, if_pos h, underline, if_neg (by omega)]
  · rw [markRow, if_neg h, underline, if_pos (by omega)]

/-- The row that shows the line of this number. -/
def codeRow (t : Text) (number : Nat) : Row :=
  .code number (shownLine t number).2

/-- Under a line stand as many markers as it holds marked positions. -/
theorem lineBlock_eq_underline (start : Nat) (hin : stop ≤ t.length) {number : Nat}
    (hpos : 0 < number) (hnumber : number ≤ t.lines.length) :
    ∃ pad, lineBlock t start stop false number =
      codeRow t number :: underline pad (held t start stop number).card := by
  obtain ⟨n, rfl⟩ := Nat.exists_eq_succ_of_ne_zero (Nat.ne_of_gt hpos)
  have hline : t.lines[n]? = some t.lines[n] := List.getElem?_eq_getElem hnumber
  have hcount := (toNat_columns start stop false (t.pieceBegin n) t.lines[n].length).2
  rw [lineBlock, markRow_eq_underline, held_eq_Ico hin hline, Nat.card_Ico, Nat.succ_sub_one,
    List.getD_eq_getElem?_getD, hline, Option.getD_some, hcount]
  exact ⟨_, by simp [codeRow, shownLine, hline]; rfl⟩

theorem lineBlock_point (start stop : Int) (number : Nat) :
    ∃ pad, lineBlock t start stop true number = [codeRow t number, .mark pad 1] := by
  rw [lineBlock, markRow_eq_underline]
  simp [columns, underline, codeRow, shownLine]

theorem hasPiece_of_mem_shownNumbers {start stop : Int} {number : Nat}
    (h : number ∈ shownNumbers t start stop) : 0 < number ∧ number ≤ t.lines.length := by
  obtain ⟨hfrom, hto⟩ := mem_shownNumbers.mp h
  exact ⟨Nat.lt_of_lt_of_le (Nat.succ_pos _) hfrom,
    hto.trans (lastShown_le_length_lines t start stop)⟩

/-- The rows of a region with visible characters. -/
theorem rows_eq_underlined (hin : stop ≤ t.length) (hvisible : isPoint t start stop = false) :
    ∃ pad : Nat → Text,
      rows t start stop = .top :: (shownNumbers t start stop).flatMap fun number =>
        codeRow t number :: underline (pad number) (held t start stop number).card := by
  have hblock (number : Nat) (h : number ∈ shownNumbers t start stop) :=
    have hpiece := hasPiece_of_mem_shownNumbers h
    lineBlock_eq_underline start hin hpiece.1 hpiece.2
  choose! pad hpad using hblock
  refine ⟨pad, ?_⟩
  rw [rows_eq_blocks, hvisible]
  congr 1
  apply List.flatMap_congr
  intro number hnumber
  rw [Bool.false_and]
  exact hpad number hnumber

/-- The rows of a region without visible characters. Behind the first line of a point
no line holds a marked position. -/
theorem rows_eq_point (hle : start ≤ stop) (hin : stop ≤ t.length)
    (hpoint : isPoint t start stop = true) :
    ∃ pad more, shownNumbers t start stop = t.lineNumberAt start :: more ∧
      rows t start stop =
        .top :: codeRow t (t.lineNumberAt start) :: .mark pad 1 :: more.map (codeRow t) := by
  let first := t.lineNumberAt start
  let later := List.range' (first + 1) (lastShown t start stop - first)
  have hcons : shownNumbers t start stop = first :: later := shownNumbers_eq_cons t start stop
  have hvisible := visible_eq_empty hle hin hpoint
  have hlater : (later.flatMap fun number =>
      lineBlock t start stop (true && number == first) number) = later.map (codeRow t) := by
    rw [List.map_eq_flatMap]
    apply List.flatMap_congr
    intro number hnumber
    have hbehind := (List.mem_range'_1.mp hnumber).1
    have hother : (number == first) = false := beq_false_of_ne (by omega)
    obtain ⟨hpos, hpiece⟩ := hasPiece_of_mem_shownNumbers (hcons ▸ List.mem_cons_of_mem _ hnumber)
    obtain ⟨pad, hblock⟩ := lineBlock_eq_underline start hin hpos hpiece
    rw [hother, Bool.and_false, hblock, held, hvisible]
    rfl
  obtain ⟨pad, hfirst⟩ := lineBlock_point (t := t) start stop first
  refine ⟨pad, later, hcons, ?_⟩
  rw [rows_eq_blocks, hcons, hpoint, List.flatMap_cons, hlater, beq_self_eq_true,
    Bool.and_self, hfirst]
  rfl

/-- Without color a row of markers has no other markers than its own. -/
theorem count_marker {look : Look} (hcolor : look.color = false) {pad : Text} {count : Nat}
    (h : (Row.mark pad count).Planned t) :
    (look.row (.mark pad count)).count look.emphasis.marker = count := by
  have hother : look.emphasis.marker ≠ ' ' ∧ look.emphasis.marker ≠ '|' ∧
      look.emphasis.marker ≠ '\t' ∧ look.emphasis.marker.isDigit = false := by
    cases look.emphasis <;> decide
  obtain ⟨hblank, hbar, htab, hdigit⟩ := hother
  have hgutter := notMem_gutterText look (.mark pad count) hblank hbar hdigit
  rw [row_plain hcolor, Look.content, hcolor, Text.paint_plain, List.count_append, List.count_append,
    List.count_eq_zero.mpr hgutter, List.count_eq_zero.mpr (notMem_pad h htab hblank),
    List.count_replicate_self, Nat.zero_add, Nat.zero_add]

/-- Without color, each line that holds visible characters of a region has below it one
row with as many markers as it holds of them, and no other line has one. So there are
as many markers as there are such characters. If there is none there is one marker,
under the first line. -/
theorem print_marks (t : Text) {start stop : Nat} (hle : start ≤ stop) (hin : stop ≤ t.length)
    (indent : Int) (emphasis : Emphasis) (file : Option Text) :
    let look : Look := { width := numberWidth t start stop indent, emphasis, file }
    let k := (t.slice start stop).countP (· ≠ '\n')
    Text.lines (print t start stop indent emphasis file false) =
      (rows t start stop).map look.row ++ [[]] ∧
    (∀ pad count, Row.mark pad count ∈ rows t start stop →
      (look.row (.mark pad count)).count emphasis.marker = count) ∧
    (1 ≤ k →
      (∃ pad : Nat → Text,
        rows t start stop = .top :: (shownNumbers t start stop).flatMap fun number =>
          codeRow t number :: underline (pad number) (held t start stop number).card) ∧
      ((shownNumbers t start stop).map fun number => (held t start stop number).card).sum = k) ∧
    (k = 0 → ∃ pad more, shownNumbers t start stop = t.lineNumberAt start :: more ∧
      rows t start stop =
        .top :: codeRow t (t.lineNumberAt start) :: .mark pad 1 :: more.map (codeRow t)) := by
  intro look k
  have hcolor : look.color = false := rfl
  refine ⟨lines_rows hcolor t start stop, ?_, ?_, ?_⟩
  · intro pad count hmark
    exact count_marker hcolor (planned_of_mem_rows hmark)
  · intro hk
    have hvisible : isPoint t start stop = false := by
      rw [Bool.eq_false_iff, ne_eq, isPoint_iff]
      exact Nat.ne_of_gt hk
    exact ⟨rows_eq_underlined hin hvisible, (sum_card_held hle hin).trans (card_visible hle hin)⟩
  · intro hk
    exact rows_eq_point hle hin ((isPoint_iff _ _).mpr hk)

/-- Four characters in the first and the third line, and two newlines between them. -/
theorem print_marks_blank_line :
    let t : Text := ['a', '\r', '\n', '\n', 'b', '\t', 'c', '\n']
    1 ≤ 8 ∧ 8 ≤ t.length ∧
    (∃ pad : Nat → Text, rows t 1 8 = [.top, .code 1 ['a'], .mark (pad 1) 1, .code 2 [],
      .code 3 ['b', '\t', 'c'], .mark (pad 3) 3]) ∧
    (t.slice 1 8).countP (· ≠ '\n') = 1 + 0 + 3 ∧
    2 ≤ 4 ∧ ∃ pad, rows t 2 4 = [.top, .code 1 ['a'], .mark pad 1, .code 2 []] := by
  intro t
  obtain ⟨-, -, hvisible, -⟩ := print_marks t (show 1 ≤ 8 by decide) (by decide) 4 .error none
  obtain ⟨⟨pad, hrows⟩, hsum⟩ := hvisible (by decide)
  obtain ⟨-, -, -, hpoint⟩ := print_marks t (show 2 ≤ 4 by decide) (by decide) 4 .error none
  obtain ⟨point, more, hcons, hrows'⟩ := hpoint (by decide)
  have hnumbers : shownNumbers t (1 : Nat) (8 : Nat) = [1, 2, 3] := by decide
  have hheld : (held t 1 8 1).card = 1 ∧ (held t 1 8 2).card = 0 ∧ (held t 1 8 3).card = 3 := by
    decide
  have hcons' : shownNumbers t 2 4 = [1, 2] := by decide
  obtain rfl : [2] = more := (List.cons.inj (hcons'.symm.trans hcons)).2
  refine ⟨by decide, by decide, ⟨pad, ?_⟩, ?_, by decide, point, ?_⟩
  · simp only [hnumbers, List.flatMap_cons, hheld] at hrows
    exact hrows
  · simp only [hnumbers, List.map_cons, hheld] at hsum
    exact hsum.symm
  · exact hrows'

end Excerpt

end Pinpoint

import Pinpoint.Proofs.Markers

/-!
# The columns of the markers

A row of markers stands below the line that it marks, behind the same gutter. In a text
without carriage returns nothing is taken away from a line when it is shown, so its columns
are its positions: a marker stands in the column of each position of the region that the
line holds. In front of the first marker the tabs of the line are repeated, and all else is
a blank. A region without a visible character has its one marker in the column of its start,
which can be the one behind the last character of the line.
-/

namespace Pinpoint

namespace Excerpt

/-- The blanks and markers below the line of this number, if it has some. -/
def underText (t : Text) (start stop : Int) (marker : Char) (number : Nat) : Option Text :=
  let line := t.lines.getD (number - 1) []
  let point := isPoint t start stop && number == t.lineNumberAt start
  let columns := columns start stop point (t.pieceBegin (number - 1)) line.length
  if columns.1 < columns.2 then
    some (padding ((Text.trimEnd '\r' line).take columns.1.toNat) ++
      List.replicate (columns.2 - columns.1).toNat marker)
  else none

/-- The lines of an excerpt without color that shows lines of these numbers, each with
what stands below it. -/
def Look.plainLines (look : Look) (t : Text) (numbers : List Nat) (under : Nat → Option Text) :
    List Text :=
  look.gutterText [] :: numbers.flatMap fun number =>
    look.row (codeRow t number) :: ((under number).map (look.gutterText [] ++ ' ' :: ·)).toList

theorem map_row_lineBlock {look : Look} (hcolor : look.color = false) (t : Text) (start stop : Int)
    (number : Nat) :
    (lineBlock t start stop (isPoint t start stop && number == t.lineNumberAt start) number).map
        look.row =
      look.row (codeRow t number) ::
        ((underText t start stop look.emphasis.marker number).map
          (look.gutterText [] ++ ' ' :: ·)).toList := by
  have hmark (pad : Text) (count : Nat) : look.row (.mark pad count) =
      look.gutterText [] ++ ' ' :: (pad ++ List.replicate count look.emphasis.marker) := by
    rw [row_plain hcolor, Look.content, hcolor, Text.paint_plain]
    rfl
  rw [lineBlock, List.map_cons, markRow, underText]
  split
  · rw [List.map_singleton, hmark]
    rfl
  · rfl

theorem lines_print (t : Text) (start stop indent : Int) (emphasis : Emphasis) (file : Option Text) :
    let look : Look := { width := numberWidth t start stop indent, emphasis, file }
    Text.lines (print t start stop indent emphasis file false) =
      look.plainLines t (shownNumbers t start stop) (underText t start stop emphasis.marker) ++
        [[]] := by
  intro look
  have hcolor : look.color = false := rfl
  have htop : look.row .top = look.gutterText [] := by
    rw [row_plain hcolor, Look.content, List.append_nil]
    rfl
  have hblocks : (shownNumbers t start stop).flatMap (fun number =>
        (lineBlock t start stop (isPoint t start stop && number == t.lineNumberAt start) number).map
          look.row) =
      (shownNumbers t start stop).flatMap fun number => look.row (codeRow t number) ::
        ((underText t start stop emphasis.marker number).map (look.gutterText [] ++ ' ' :: ·)).toList := by
    apply List.flatMap_congr
    intro number _
    exact map_row_lineBlock hcolor t start stop number
  rw [print, lines_rows hcolor, rows_eq_blocks, List.map_cons, htop, List.map_flatMap, hblocks,
    Look.plainLines]

theorem row_codeRow {look : Look} (hcolor : look.color = false) (t : Text) (number : Nat) :
    look.row (codeRow t number) =
      look.gutterText (Text.Numeral.ofNat number) ++
        if (shownLine t number).2 = [] then [] else ' ' :: (shownLine t number).2 := by
  rw [codeRow, row_plain hcolor, content_code_plain hcolor]
  rfl

/-- The row lines up with the code above it: its markers are in the marked columns, it
repeats the tabs in front of them, and it ends with the last marker. -/
structure LinesUp (marker : Char) (code under : Text) (marked : Nat → Prop) : Prop where
  markers : ∀ j, under[j]? = some marker ↔ marked j
  blanks : ∀ j < under.length, (∀ i ≤ j, ¬ marked i) →
    under[j]? = some (if code[j]? = some '\t' then '\t' else ' ')
  ends : under.getLast? = some marker

theorem length_padding (source : Text) : (padding source).length = source.length :=
  List.length_map _

theorem getElem?_padding (source : Text) (j : Nat) :
    (padding source)[j]? = source[j]?.map fun c => if c = '\t' then '\t' else ' ' :=
  List.getElem?_map

/-- Padding up to a column and markers from it on line up with the marked stretch. -/
theorem linesUp_of_stretch {marker : Char} (hblank : marker ≠ ' ') (htab : marker ≠ '\t')
    {code : Text} {first count : Nat} (hfirst : first ≤ code.length) (hcount : 0 < count)
    {marked : Nat → Prop} (hmarked : ∀ j, marked j ↔ first ≤ j ∧ j < first + count) :
    LinesUp marker code (padding (code.take first) ++ List.replicate count marker) marked := by
  have hlength : (padding (code.take first)).length = first := by
    rw [length_padding, List.length_take, Nat.min_eq_left hfirst]
  constructor
  · intro j
    rw [hmarked]
    rcases Nat.lt_or_ge j first with hbefore | hbehind
    · have hother : (padding (code.take first))[j]? ≠ some marker := by
        intro h
        exact (blank_of_mem_padding (List.mem_of_getElem? h)).elim htab hblank
      rw [List.getElem?_append_left (by omega)]
      exact iff_of_false hother (by omega)
    · rw [List.getElem?_append_right (by omega), hlength, List.getElem?_replicate]
      by_cases hlt : j - first < count
      · exact iff_of_true (if_pos hlt) (by omega)
      · rw [if_neg hlt]
        exact iff_of_false (by simp) (by omega)
  · intro j hj hnone
    rw [List.length_append, hlength, List.length_replicate] at hj
    have hbefore : j < first := by
      by_contra hbehind
      exact hnone j (Nat.le_refl j) ((hmarked j).mpr (by omega))
    have hchar : code[j]? = some code[j] := List.getElem?_eq_getElem (by omega)
    rw [List.getElem?_append_left (by omega), getElem?_padding, List.getElem?_take_of_lt hbefore,
      hchar]
    simp
  · rw [List.getLast?_append, List.getLast?_replicate, if_neg (Nat.ne_of_gt hcount)]
    rfl

/-- The column `j` of the piece that begins at `b` holds a character of the region. Without
a visible character in the region it is the start of the region. -/
def Marked (t : Text) (start stop b j : Nat) : Prop :=
  if isPoint t start stop then b + j = start
  else start ≤ b + j ∧ b + j < stop ∧ b + j < t.lineEnd b

section

variable {t : Text} {start stop : Nat}

/-- No line holds a position of a point. -/
theorem no_stretch_of_isPoint (hle : start ≤ stop) (hin : stop ≤ t.length)
    (hpoint : isPoint t start stop = true) {n : Nat} {line : Text} (hline : t.lines[n]? = some line) :
    min stop (t.pieceBegin n + line.length) ≤ max start (t.pieceBegin n) := by
  have hnone : held t start stop (n + 1) = ∅ := by
    rw [held, visible_eq_empty hle hin hpoint, Finset.filter_empty]
  rwa [held_eq_Ico hin hline, Finset.Ico_eq_empty_iff, Nat.not_lt] at hnone

/-- How many markers stand below a line that begins at `b`. -/
def markerCount (t : Text) (start stop number b length : Nat) : Nat :=
  if isPoint t start stop && number == t.lineNumberAt start then 1
  else min stop (b + length) - max start b

theorem underText_eq (marker : Char) {number b : Nat} {line : Text}
    (hline : t.lines[number - 1]? = some line) (hbegin : t.pieceBegin (number - 1) = b) :
    underText t start stop marker number =
      if 0 < markerCount t start stop number b line.length then
        some (padding ((Text.trimEnd '\r' line).take (max start b - b)) ++
          List.replicate (markerCount t start stop number b line.length) marker)
      else none := by
  obtain ⟨hfirst, hcount⟩ := toNat_columns start stop
    (isPoint t start stop && number == t.lineNumberAt start) b line.length
  rw [← markerCount] at hcount
  rw [underText, List.getD_eq_getElem?_getD, hline, Option.getD_some, hbegin]
  simp only [hfirst, hcount]
  congr 1
  exact propext (by omega)

/-- What stands below a line lines up with it, if nothing was taken from its end. -/
theorem linesUp_underText (hle : start ≤ stop) (hin : stop ≤ t.length) {marker : Char}
    (hblank : marker ≠ ' ') (htab : marker ≠ '\t') {number b : Nat}
    (hb : t.BeginsPiece (number - 1) b)
    (hwhole : Text.trimEnd '\r' (t.slice b (t.lineEnd b)) = t.slice b (t.lineEnd b)) {under : Text}
    (hunder : underText t start stop marker number = some under) :
    LinesUp marker (t.slice b (t.lineEnd b)) under (Marked t start stop b) := by
  have hline := hb.getElem?_lines
  have hend := hb.lineEnd_eq hline
  rw [underText_eq marker hline hb.pieceBegin_eq, hwhole] at hunder
  generalize t.slice b (t.lineEnd b) = code at hline hend hunder
  obtain ⟨hcount, hunder⟩ := Option.ite_none_right_eq_some.mp hunder
  obtain rfl := Option.some.inj hunder
  by_cases hpoint : isPoint t start stop = true
  · by_cases hfirst : number = t.lineNumberAt start
    · -- The one marker stands in the column of the start.
      obtain rfl : t.lineBegin start = b := by
        rw [t.lineBegin_eq_pieceBegin, ← hfirst, hb.pieceBegin_eq]
      obtain ⟨hfrom, hto⟩ := Text.lineBegin_le_and_le_lineEnd (hle.trans hin)
      rw [markerCount, hpoint, hfirst, beq_self_eq_true, Bool.and_self, if_pos rfl]
      apply linesUp_of_stretch hblank htab (by omega) Nat.one_pos
      intro j
      rw [Marked, if_pos hpoint]
      omega
    · have hother : (number == t.lineNumberAt start) = false := beq_false_of_ne hfirst
      have hnone := no_stretch_of_isPoint hle hin hpoint hline
      rw [hb.pieceBegin_eq] at hnone
      rw [markerCount, hother, Bool.and_false, if_neg Bool.false_ne_true] at hcount
      omega
  · rw [markerCount, Bool.eq_false_iff.mpr hpoint, Bool.false_and, if_neg Bool.false_ne_true] at hcount ⊢
    apply linesUp_of_stretch hblank htab (by omega) hcount
    intro j
    rw [Marked, if_neg hpoint, hend]
    omega

end

/-- In a text without carriage returns the gutters of a line and of the row below it end in
the same column, and behind them the row lines up with the line: it has markers in the
columns of the positions that the region and the line share. -/
theorem print_lines_up {t : Text} (hplain : '\r' ∉ t) {start stop : Nat} (hle : start ≤ stop)
    (hin : stop ≤ t.length) (indent : Int) (emphasis : Emphasis) (file : Option Text) :
    let look : Look := { width := numberWidth t start stop indent, emphasis, file }
    ∃ under : Nat → Option Text,
      Text.lines (print t start stop indent emphasis file false) =
        look.plainLines t (shownNumbers t start stop) under ++ [[]] ∧
      ∀ number ∈ shownNumbers t start stop, ∃ b, t.BeginsPiece (number - 1) b ∧
        let code := t.slice b (t.lineEnd b)
        look.row (codeRow t number) =
          look.gutterText (Text.Numeral.ofNat number) ++ (if code = [] then [] else ' ' :: code) ∧
        (look.gutterText (Text.Numeral.ofNat number)).length = (look.gutterText []).length ∧
        ∀ u ∈ under number, LinesUp emphasis.marker code u (Marked t start stop b) := by
  intro look
  refine ⟨underText t start stop emphasis.marker, lines_print t start stop indent emphasis file, ?_⟩
  intro number hnumber
  obtain ⟨hpos, hpiece⟩ := hasPiece_of_mem_shownNumbers hnumber
  have hb := Text.beginsPiece_pieceBegin (show number - 1 < t.lines.length by omega)
  refine ⟨_, hb, ?_⟩
  intro code
  have hline : t.lines[number - 1]? = some code := hb.getElem?_lines
  have hwhole : Text.trimEnd '\r' code = code := by
    apply Text.trimEnd_of_getLast?
    intro hlast
    exact hplain (Text.mem_of_mem_lines (List.mem_of_getElem? hline) (List.mem_of_getLast? hlast))
  have hshown : (shownLine t number).2 = code := by
    rw [shownLine, List.getD_eq_getElem?_getD, hline, Option.getD_some, hwhole]
  have hrow : codeRow t number ∈ rows t start stop := by
    rw [codeRow, ← mem_codes_iff, codes_rows]
    exact List.mem_map_of_mem hnumber
  have hlabel : (Text.Numeral.ofNat number).length ≤ look.width :=
    length_label_le hle hin indent hrow
  have hblank : ([] : Text).length ≤ look.width := Nat.zero_le _
  refine ⟨?_, ?_, ?_⟩
  · rw [row_codeRow rfl, hshown]
  · rw [length_gutterText look hlabel, length_gutterText look hblank]
  · intro u hu
    have hmarker : emphasis.marker ≠ ' ' ∧ emphasis.marker ≠ '\t' := by cases emphasis <;> decide
    exact linesUp_underText hle hin hmarker.1 hmarker.2 hb hwhole hu

/-- A region from behind a tab, over an empty line, into a line that begins with a tab. -/
theorem print_lines_up_tabs :
    let t : Text := ['\t', 'x', '\n', '\n', '\t', 'y', 'z']
    '\r' ∉ t ∧ 1 ≤ 6 ∧ 6 ≤ t.length ∧
    ∃ under : Nat → Option Text,
      Text.lines (print t 1 6 4 .info none false) =
        Look.plainLines { width := 2, emphasis := .info } t [1, 2, 3] under ++ [[]] ∧
      (∀ u ∈ under 1, u[0]? = some '\t' ∧ u[1]? = some '-') ∧
      (∀ u ∈ under 2, u[0]? ≠ some '-') ∧ ∀ u ∈ under 3, ∀ j, u[j]? = some '-' ↔ j < 2 := by
  intro t
  have hplain : '\r' ∉ t := by decide
  obtain ⟨under, hlines, hcolumns⟩ :=
    print_lines_up hplain (show 1 ≤ 6 by decide) (by decide) 4 .info none
  have hnumbers : shownNumbers t (1 : Nat) (6 : Nat) = [1, 2, 3] := by decide
  have hmarked (b j : Nat) : Marked t 1 6 b j ↔ 1 ≤ b + j ∧ b + j < 6 ∧ b + j < t.lineEnd b := by
    rw [Marked, if_neg (by decide)]
  have hwidth : numberWidth t (1 : Nat) (6 : Nat) 4 = 2 := by decide
  rw [hnumbers, hwidth] at hlines
  rw [hnumbers] at hcolumns
  refine ⟨hplain, by decide, by decide, under, hlines, ?_, ?_, ?_⟩
  · intro u hu
    obtain ⟨b, hb, -, -, hup⟩ := hcolumns 1 (by decide)
    obtain rfl : 0 = b := hb.pieceBegin_eq
    have h := hup u hu
    have hmarker : u[1]? = some '-' := (h.markers 1).mpr ((hmarked 0 1).mpr (by decide))
    obtain ⟨hlt, -⟩ := List.getElem?_eq_some_iff.mp hmarker
    refine ⟨h.blanks 0 (by omega) ?_, hmarker⟩
    intro i hi hnot
    have := (hmarked 0 i).mp hnot
    omega
  · intro u hu hmarker
    obtain ⟨b, hb, -, -, hup⟩ := hcolumns 2 (by decide)
    obtain rfl : 3 = b := hb.pieceBegin_eq
    exact absurd ((hmarked 3 0).mp (((hup u hu).markers 0).mp hmarker)) (by decide)
  · intro u hu j
    obtain ⟨b, hb, -, -, hup⟩ := hcolumns 3 (by decide)
    obtain rfl : 4 = b := hb.pieceBegin_eq
    have hend : t.lineEnd (4 : Nat) = 7 := by decide
    have h : u[j]? = some '-' ↔ Marked t 1 6 4 j := (hup u hu).markers j
    rw [h, hmarked, hend]
    omega

end Excerpt

end Pinpoint

import Pinpoint.Excerpt.Row
import Pinpoint.Proofs.Lines

/-!
# The lines that an excerpt shows

The code rows of an excerpt carry consecutive numbers, each with the line of that
number. The first is the line of the region's start. The last is found by
counting the newlines before the last position that belongs to the region, and
this position is one less than the exclusive end.
-/

namespace Pinpoint.Excerpt

/-- Number and source of a row that shows a line. -/
def Row.code? : Row → Option (Nat × Text)
  | .code number source => some (number, source)
  | .top => none
  | .mark _ _ => none

def codes (rows : List Row) : List (Nat × Text) :=
  rows.filterMap Row.code?

/-- The line of this number without the carriage returns at its end. -/
def shownLine (t : Text) (number : Nat) : Nat × Text :=
  (number, Text.trimEnd '\r' (t.lines.getD (number - 1) []))

/-- Number of the last line that is shown. -/
def lastShown (t : Text) (start stop : Int) : Nat :=
  max (t.lineNumberAt start) ((t.take (stop - 1).toNat).count '\n' + 1)

/-- Numbers of the lines that are shown. -/
def shownNumbers (t : Text) (start stop : Int) : List Nat :=
  List.range' (t.lineNumberAt start) (lastShown t start stop + 1 - t.lineNumberAt start)

theorem mem_shownNumbers {t : Text} {start stop : Int} {number : Nat} :
    number ∈ shownNumbers t start stop ↔
      t.lineNumberAt start ≤ number ∧ number ≤ lastShown t start stop := by
  have hfirst : t.lineNumberAt start ≤ lastShown t start stop := Nat.le_max_left _ _
  rw [shownNumbers, List.mem_range'_1]
  omega

theorem shownNumbers_eq_cons (t : Text) (start stop : Int) :
    shownNumbers t start stop = t.lineNumberAt start ::
      List.range' (t.lineNumberAt start + 1) (lastShown t start stop - t.lineNumberAt start) := by
  have hfirst : t.lineNumberAt start ≤ lastShown t start stop := Nat.le_max_left _ _
  rw [shownNumbers, Nat.succ_sub hfirst, List.range'_succ]

/-- The rows of a line: its code, and the markers under it. -/
def lineBlock (t : Text) (start stop : Int) (point : Bool) (number : Nat) : List Row :=
  let line := t.lines.getD (number - 1) []
  .code number (Text.trimEnd '\r' line) ::
    markRow (Text.trimEnd '\r' line)
      (columns start stop point (t.pieceBegin (number - 1)) line.length)

/-- The rows of the remaining lines are the blocks of as many of them as there are
newlines before the last position of the region, and one more. The remaining lines are
the lines of the whole text from the current number on; only the first can be a point. -/
theorem lineRows_eq_blocks {whole rest : Text} (start stop : Int) (point : Bool) {n : Nat}
    (hrest : whole.lines.drop n = rest.lines) :
    lineRows start stop point (n + 1) (whole.pieceBegin n) rest.lines =
      (List.range' (n + 1) (1 + (rest.take (stop - 1 - whole.pieceBegin n).toNat).count '\n')).flatMap
        fun number => lineBlock whole start stop (point && number == n + 1) number := by
  induction rest using Text.line_induction generalizing n point with
  | unfinished l hl =>
    have hnone : (l.take (stop - 1 - whole.pieceBegin n).toNat).count '\n' = 0 :=
      List.count_eq_zero.mpr fun h => hl (List.mem_of_mem_take h)
    have hline : whole.lines[n]? = some l := by
      rw [← List.head?_drop, hrest, Text.lines_unfinished hl, List.head?_cons]
    rw [Text.lines_unfinished hl, lineRows, hnone]
    simp [lineRows, lineBlock, hline]
  | finished l rest hl ih =>
    have hline : whole.lines[n]? = some l := by
      rw [← List.head?_drop, hrest, Text.lines_finished hl, List.head?_cons]
    have hblock : lineBlock whole start stop point (n + 1) =
        .code (n + 1) (Text.trimEnd '\r' l) ::
          markRow (Text.trimEnd '\r' l) (columns start stop point (whole.pieceBegin n) l.length) := by
      simp [lineBlock, hline]
    have hnext : whole.lines.drop (n + 1) = rest.lines := by
      rw [← List.drop_drop, hrest, Text.lines_finished hl, List.drop_succ_cons, List.drop_zero]
    rw [Text.lines_finished hl, lineRows, ← hblock]
    split
    · next hstop =>
      -- The region ends before the next line, so no newline is counted.
      have hnone :
          ((l ++ '\n' :: rest).take (stop - 1 - whole.pieceBegin n).toNat).count '\n' = 0 :=
        Text.count_take_within hl (by omega)
      rw [hnone]
      simp
    · next hstop =>
      have hcount : ((l ++ '\n' :: rest).take (stop - 1 - whole.pieceBegin n).toNat).count '\n' =
          1 + (rest.take (stop - 1 - (whole.pieceBegin n + l.length + 1 : Nat)).toNat).count '\n' := by
        obtain ⟨k, hk⟩ : ∃ k, (stop - 1 - whole.pieceBegin n).toNat = l.length + 1 + k :=
          ⟨(stop - 1 - whole.pieceBegin n).toNat - (l.length + 1), by omega⟩
        rw [hk, Text.count_take_behind hl, Nat.add_comm,
          show k = (stop - 1 - (whole.pieceBegin n + l.length + 1 : Nat)).toNat by omega]
      have hlater := ih false hnext
      rw [Text.pieceBegin_succ hline] at hlater
      rw [hlater, hcount, Nat.add_comm 1 (1 + _), List.range'_succ, List.flatMap_cons]
      congr 1
      · simp
      · -- Behind the first block no line is a point.
        apply List.flatMap_congr
        intro number hnumber
        have hlt := (List.mem_range'_1.mp hnumber).1
        have hne : (number == n + 1) = false := beq_false_of_ne (by omega)
        rw [hne, Bool.and_false, Bool.false_and]

/-- An excerpt is made of the blocks of the lines from that of the region's start to
the last one, each once and in order. No position is assumed to lie in the text. -/
theorem rows_eq_blocks (t : Text) (start stop : Int) :
    rows t start stop =
      .top :: (shownNumbers t start stop).flatMap fun number =>
        lineBlock t start stop (isPoint t start stop && number == t.lineNumberAt start) number := by
  have hnumber := t.count_take_lineBegin start
  have hrest := t.lines_drop_lineBegin start
  have hbegin := t.lineBegin_eq_pieceBegin start
  rw [← hnumber, Nat.add_sub_cancel] at hrest hbegin
  have hcount : 1 + ((t.drop (t.lineBegin start)).take
      (stop - 1 - t.lineBegin start).toNat).count '\n' =
        lastShown t start stop + 1 - t.lineNumberAt start := by
    unfold lastShown
    rw [← hnumber]
    rcases Nat.lt_or_ge (stop - 1).toNat (t.lineBegin start) with hbefore | hbehind
    · have hle := ((List.take_sublist_take_left (l := t) (Nat.le_of_lt hbefore)).count_le '\n')
      rw [show (stop - 1 - (t.lineBegin start : Int)).toNat = 0 by omega, List.take_zero,
        List.count_nil]
      omega
    · obtain ⟨k, hk⟩ := Nat.exists_eq_add_of_le hbehind
      rw [hk, show (stop - 1 - (t.lineBegin start : Int)).toNat = k by omega, List.take_add,
        List.count_append]
      omega
  have hblocks := lineRows_eq_blocks start stop (isPoint t start stop) hrest.symm
  rw [← hbegin, hcount, hnumber] at hblocks
  exact congrArg (Row.top :: ·) hblocks

theorem codes_lineBlock (t : Text) (start stop : Int) (point : Bool) (number : Nat) :
    codes (lineBlock t start stop point number) = [shownLine t number] := by
  have hmark (source : Text) (columns : Int × Int) : codes (markRow source columns) = [] := by
    unfold markRow
    split <;> rfl
  exact congrArg (shownLine t number :: ·) (hmark _ _)

/-- An excerpt shows the lines from that of the region's start to the last one,
each once and in order. No position is assumed to lie in the text. -/
theorem codes_rows (t : Text) (start stop : Int) :
    codes (rows t start stop) = (shownNumbers t start stop).map (shownLine t) := by
  have htop (blocks : List Row) : codes (.top :: blocks) = codes blocks := rfl
  have hblocks (point : Nat → Bool) (numbers : List Nat) :
      codes (numbers.flatMap fun number => lineBlock t start stop (point number) number) =
        numbers.map (shownLine t) := by
    rw [codes, List.filterMap_flatMap, List.map_eq_flatMap]
    apply List.flatMap_congr
    intro number _
    exact codes_lineBlock t start stop _ number
  rw [rows_eq_blocks, htop, hblocks]

/-- A row as the excerpt of this text can hold it. -/
def Row.Planned (t : Text) : Row → Prop
  | .top => True
  | .code number source => (number, source) = shownLine t number
  | .mark padding count => (∀ c ∈ padding, c = '\t' ∨ c = ' ') ∧ 0 < count

theorem mem_codes_iff {rows : List Row} {number : Nat} {source : Text} :
    (number, source) ∈ codes rows ↔ .code number source ∈ rows := by
  unfold codes
  rw [List.mem_filterMap]
  constructor
  · rintro ⟨row, hmem, hrow⟩
    cases row <;> simp_all [Row.code?]
  · exact fun hmem => ⟨_, hmem, rfl⟩

theorem blank_of_mem_padding {source : Text} {c : Char} (h : c ∈ padding source) :
    c = '\t' ∨ c = ' ' := by
  obtain ⟨d, -, rfl⟩ := List.mem_map.mp h
  split
  · exact Or.inl rfl
  · exact Or.inr rfl

theorem mark_of_mem_markRow {source pad : Text} {columns : Int × Int} {count : Nat}
    (h : .mark pad count ∈ markRow source columns) :
    (∀ c ∈ pad, c = '\t' ∨ c = ' ') ∧ 0 < count := by
  unfold markRow at h
  split at h
  · next hlt =>
    obtain ⟨rfl, rfl⟩ := Row.mark.inj (List.mem_singleton.mp h)
    exact ⟨fun c hc => blank_of_mem_padding hc, by omega⟩
  · simp at h

theorem mark_of_mem_lineRows {start stop : Int} {point : Bool} {number begin : Nat}
    {lines : List Text} {pad : Text} {count : Nat}
    (h : .mark pad count ∈ lineRows start stop point number begin lines) :
    (∀ c ∈ pad, c = '\t' ∨ c = ' ') ∧ 0 < count := by
  induction lines generalizing point number begin with
  | nil => simp [lineRows] at h
  | cons line more ih =>
    rw [lineRows, List.mem_append, List.mem_cons] at h
    rcases h with (h | h) | h
    · cases h
    · exact mark_of_mem_markRow h
    · split at h
      · simp at h
      · exact ih h

theorem planned_of_mem_rows {t : Text} {start stop : Int} {row : Row}
    (h : row ∈ rows t start stop) : row.Planned t := by
  cases row with
  | top => trivial
  | code number source =>
    rw [← mem_codes_iff, codes_rows, List.mem_map] at h
    obtain ⟨n, -, hn⟩ := h
    obtain rfl : n = number := congrArg Prod.fst hn
    exact hn.symm
  | mark pad count =>
    rcases List.mem_cons.mp h with h | h
    · cases h
    · exact mark_of_mem_lineRows h

/-- A displayed line holds characters of its text, no newline, and no carriage
return at its end. -/
theorem line_of_planned {t : Text} {number : Nat} {source : Text}
    (h : (Row.code number source).Planned t) :
    '\n' ∉ source ∧ source.getLast? ≠ some '\r' ∧ ∀ c ∈ source, c ∈ t := by
  obtain rfl : source = (shownLine t number).2 := congrArg Prod.snd h
  have hchar {c : Char} (hc : c ∈ (shownLine t number).2) : c ∈ t ∧ c ≠ '\n' := by
    have hmem := Text.mem_of_mem_trimEnd hc
    rw [List.getD_eq_getElem?_getD] at hmem
    cases hline : t.lines[number - 1]? with
    | none => simp [hline] at hmem
    | some line =>
      rw [hline, Option.getD_some] at hmem
      have hin := List.mem_of_getElem? hline
      exact ⟨Text.mem_of_mem_lines hin hmem, fun hnew =>
        Text.newline_notMem_of_mem_lines hin (hnew ▸ hmem)⟩
  exact ⟨fun hmem => (hchar hmem).2 rfl, Text.getLast?_trimEnd _ _, fun c hc => (hchar hc).1⟩

end Pinpoint.Excerpt

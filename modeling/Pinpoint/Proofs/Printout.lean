import Pinpoint.Proofs.LineSpans
import Pinpoint.Proofs.Painting
import Pinpoint.Proofs.Results

/-!
# The printed excerpt

An excerpt is also what a loop over offsets prints: each turn prints the line that
begins at an offset and goes on behind the newline that ends it. The loop is left at
the end of the region or of the text, whatever positions the region has.

Printed without color, every row is one line of the output. For a region in the text
the last number that is printed is the one the gutter was made for, so no number
pushes the bar of its row aside. Only an indent of a size that no label can be aligned in
keeps an excerpt from being printed.
-/

namespace Pinpoint

namespace Excerpt

/-- The rows of the line that begins at an offset. -/
def turn (t : Text) (start stop : Int) (number begin : Nat) : List Row :=
  let source := Text.trimEnd '\r' (t.slice begin (t.lineEnd begin))
  let point := isPoint t start stop && number == t.lineNumberAt start
  .code number source ::
    markRow source (columns start stop point begin (t.lineEnd begin - begin))

/-- The rows of a loop that prints line after line, if it is left within a number of turns. -/
def loop (t : Text) (start stop : Int) : Nat → Nat → Nat → Option (List Row)
  | 0, _, _ => none
  | turns + 1, number, begin =>
    let more :=
      if stop ≤ (t.lineEnd begin + 1 : Nat) ∨ t.length ≤ t.lineEnd begin then some []
      else loop t start stop turns (number + 1) (t.lineEnd begin + 1)
    more.map (turn t start stop number begin ++ ·)

/-- What a turn reads is the piece at its offset. -/
theorem turn_eq {t line : Text} (start stop : Int) (number : Nat) {begin : Nat}
    (hin : begin ≤ t.length) (hline : (t.drop begin).takeWhile (· ≠ '\n') = line) :
    t.lineEnd begin = begin + line.length ∧
      turn t start stop number begin =
        .code number (Text.trimEnd '\r' line) ::
          markRow (Text.trimEnd '\r' line)
            (columns start stop (isPoint t start stop && number == t.lineNumberAt start) begin
              line.length) := by
  have hend : t.lineEnd begin = begin + line.length := by rw [Text.lineEnd_of_le hin, hline]
  refine ⟨hend, ?_⟩
  rw [turn, Text.slice_lineEnd hin, hline, hend, Nat.add_sub_cancel_left]

/-- Each turn takes one of the pieces that are left, so the loop ends. -/
theorem loop_eq_lineRows {t rest : Text} (start stop : Int) {number begin : Nat}
    (hfrom : t.lineNumberAt start ≤ number) (hin : begin ≤ t.length) (hrest : t.drop begin = rest) :
    loop t start stop rest.lines.length number begin =
      some (lineRows start stop (isPoint t start stop && number == t.lineNumberAt start) number begin
        rest.lines) := by
  have hlength := congrArg List.length hrest
  rw [List.length_drop] at hlength
  induction rest using Text.line_induction generalizing number begin with
  | unfinished l hl =>
    have hline : (t.drop begin).takeWhile (· ≠ '\n') = l := by
      rw [hrest, Text.takeWhile_unfinished hl]
    obtain ⟨hend, hturn⟩ := turn_eq start stop number hin hline
    have hlast : t.length ≤ t.lineEnd begin := by omega
    rw [Text.lines_unfinished hl, List.length_singleton, loop, if_pos (Or.inr hlast), hturn]
    simp [lineRows]
  | finished l rest hl ih =>
    have hline : (t.drop begin).takeWhile (· ≠ '\n') = l := by
      rw [hrest, Text.takeWhile_finished hl]
    obtain ⟨hend, hturn⟩ := turn_eq start stop number hin hline
    rw [List.length_append, List.length_cons] at hlength
    rw [Text.lines_finished hl, List.length_cons, loop, hend, hturn, lineRows]
    by_cases hstop : stop ≤ (begin + l.length + 1 : Nat)
    · rw [if_pos (Or.inl hstop), if_pos hstop]
      rfl
    · have hmore : ¬ (stop ≤ (begin + l.length + 1 : Nat) ∨ t.length ≤ begin + l.length) := by omega
      have hnext : t.drop (begin + l.length + 1) = rest := by
        rw [Nat.add_assoc, ← List.drop_drop, hrest, List.drop_length_add_append, List.drop_succ_cons,
          List.drop_zero]
      have hother : (number + 1 == t.lineNumberAt start) = false := beq_false_of_ne (by omega)
      rw [if_neg hmore, if_neg hstop, ih (by omega) (by omega) hnext (by omega), hother, Bool.and_false]
      rfl

/-- The loop is left after as many turns as the text has pieces, if not before, and has
printed the rows of the excerpt. -/
theorem loop_eq_rows (t : Text) (start stop : Int) :
    ∃ turns body, turns ≤ t.lines.length ∧ rows t start stop = .top :: body ∧
      loop t start stop turns (t.lineNumberAt start) (t.lineBegin start) = some body := by
  have hle := (t.lineBegin_le_cut start).trans (Text.cut_le _ _)
  have hloop := loop_eq_lineRows (t := t) start stop (Nat.le_refl _) hle rfl
  rw [beq_self_eq_true, Bool.and_true] at hloop
  refine ⟨_, _, ?_, rfl, hloop⟩
  rw [t.lines_drop_lineBegin, List.length_drop]
  exact Nat.sub_le _ _

/-- Whatever is rendered is the printed excerpt. -/
theorem eq_print_of_render {t : Text} {start stop indent : Int} {emphasis : Emphasis}
    {file : Option Text} {color : Bool} {out : Text}
    (h : render t start stop indent emphasis file color = .ok out) :
    out = print t start stop indent emphasis file color := by
  obtain ⟨_, -, hout⟩ := bind_eq_ok_iff.mp h
  exact (Except.ok.inj hout).symm

/-- The lines of the output are the printed rows. -/
theorem lines_rows {look : Look} (hcolor : look.color = false) (t : Text) (start stop : Int) :
    Text.lines (look.rows (rows t start stop)) = (rows t start stop).map look.row ++ [[]] := by
  have hne : (rows t start stop).map look.row ≠ [] := List.cons_ne_nil _ _
  rw [Look.rows, Text.intercalate_newline hne]
  apply Text.lines_unlines
  intro line hline
  obtain ⟨row, hrow, rfl⟩ := List.mem_map.mp hline
  exact newline_notMem_row hcolor (planned_of_mem_rows hrow)

theorem lastShown_le_length_lines (t : Text) (start stop : Int) :
    lastShown t start stop ≤ t.lines.length := by
  have hcount (n : Nat) : (t.take n).count '\n' + 1 ≤ t.lines.length := by
    rw [Text.lines, Text.length_fields]
    exact Nat.succ_le_succ ((List.take_sublist n t).count_le '\n')
  exact Nat.max_le.mpr ⟨hcount _, hcount _⟩

/-- The last line that is shown holds the last position of the region, if it has one. -/
theorem lastShown_eq {t : Text} {start stop : Nat} (hle : start ≤ stop) (hin : stop ≤ t.length) :
    lastShown t start stop =
      if start < stop then t.lineNumberAt (stop - 1 : Nat) else t.lineNumberAt start := by
  have hstop := Text.lineNumberAt_of_le (show stop - 1 ≤ t.length by omega)
  rw [lastShown, show ((stop : Int) - 1).toNat = stop - 1 by omega, ← hstop]
  split
  · exact Nat.max_eq_right (Text.lineNumberAt_mono (by omega) (by omega))
  · exact Nat.max_eq_left (Text.lineNumberAt_mono (by omega) (by omega))

/-- The gutter of a region in the text is made for the last number that is shown. -/
theorem lastLine_eq_lastShown {t : Text} {start stop : Nat} (hle : start ≤ stop)
    (hin : stop ≤ t.length) : lastLine t start stop = lastShown t start stop := by
  rw [lastShown_eq hle hin, lastLine]
  by_cases hlt : start < stop
  · rw [if_pos hlt, if_pos (Int.ofNat_lt.mpr hlt), show (stop : Int) - 1 = (stop - 1 : Nat) by omega]
  · rw [if_neg hlt, if_neg (by omega)]

theorem length_label_le {t : Text} {start stop : Nat} (hle : start ≤ stop) (hin : stop ≤ t.length)
    (indent : Int) {row : Row} (hrow : row ∈ rows t start stop) :
    row.label.length ≤ numberWidth t start stop indent := by
  cases row with
  | top => exact Nat.zero_le _
  | mark pad count => exact Nat.zero_le _
  | code number source =>
    have hlast : number ≤ lastShown t start stop := by
      rw [← mem_codes_iff, codes_rows, List.mem_map] at hrow
      obtain ⟨n, hn, hshown⟩ := hrow
      obtain rfl : n = number := congrArg Prod.fst hshown
      exact (mem_shownNumbers.mp hn).2
    rw [← lastLine_eq_lastShown hle hin] at hlast
    exact (Text.Numeral.length_ofNat_le hlast).trans (Nat.le_max_right _ _)

theorem length_gutterText (look : Look) {label : Text} (h : label.length ≤ look.width) :
    (look.gutterText label).length = look.width + 2 := by
  rw [Look.gutterText, List.length_append, Text.length_alignRight, Nat.max_eq_left h]
  rfl

theorem getElem?_gutterText (look : Look) {row : Row} (h : row.label.length ≤ look.width)
    (content : Text) :
    (look.gutterText row.label ++ content)[look.width + 1]? = some '|' := by
  have hlength := Text.length_alignRight look.width row.label
  rw [Nat.max_eq_left h] at hlength
  rw [Look.gutterText, List.append_assoc, List.getElem?_append_right (by omega), hlength,
    Nat.add_sub_cancel_left]
  rfl

/-- An excerpt is printed for every indent that leaves the gutter no wider than a label can
be aligned in, and for no other. For any positions its loop then ends, and the lines of the
output are its rows. The code rows are numbered from the line of the start to that of the
last position before the end, each with the text's line of this number without the carriage
returns at its end. For a region in the text the bar of every row stands in the same
column, and every number stands in front of it as a whole and aligned to the right. -/
theorem print_shows (t : Text) (start stop indent : Int) (emphasis : Emphasis) (file : Option Text) :
    let look : Look := { width := numberWidth t start stop indent, emphasis, file }
    let rendered := render t start stop indent emphasis file false
    let first := t.lineNumberAt start
    let last := max first ((t.take (stop - 1).toNat).count '\n' + 1)
    ((∃ out, rendered = .ok out) ↔ indent - 2 ≤ Text.maxLength) ∧
    (¬ indent - 2 ≤ Text.maxLength →
      rendered = .error (if Text.Numeral.isShort (indent - 2) then .width else .numeral)) ∧
    (∃ turns body, rows t start stop = .top :: body ∧
      loop t start stop turns first (t.lineBegin start) = some body) ∧
    (∀ out, rendered = .ok out → Text.lines out = (rows t start stop).map look.row ++ [[]]) ∧
    codes (rows t start stop) = (List.range' first (last + 1 - first)).map (fun number =>
      (number, Text.trimEnd '\r' (t.lines.getD (number - 1) []))) ∧
    last ≤ t.lines.length ∧
    (∀ number source, look.row (.code number source) =
      Text.alignRight look.width (Text.Numeral.ofNat number) ++ " |".toList ++
        if source = [] then [] else ' ' :: source) ∧
    (0 ≤ start → start ≤ stop → stop ≤ t.length → ∀ row ∈ rows t start stop,
      (look.row row)[look.width + 1]? = some '|' ∧
      (look.row row).take look.width = Text.alignRight look.width row.label ∧
      row.label.length ≤ look.width) := by
  intro look rendered first last
  have hcolor : look.color = false := rfl
  refine ⟨?_, fun hno => render_of_not_le hno t start stop emphasis file false, ?_, ?_,
    codes_rows t start stop, lastShown_le_length_lines t start stop, ?_, ?_⟩
  · by_cases hle : indent - 2 ≤ Text.maxLength
    · exact iff_of_true ⟨_, render_of_le hle t start stop emphasis file false⟩ hle
    · refine iff_of_false ?_ hle
      rintro ⟨out, hout⟩
      cases (render_of_not_le hle t start stop emphasis file false).symm.trans hout
  · obtain ⟨turns, body, -, hbody, hloop⟩ := loop_eq_rows t start stop
    exact ⟨turns, body, hbody, hloop⟩
  · intro out hout
    rw [eq_print_of_render hout]
    exact lines_rows hcolor t start stop
  · intro number source
    rw [row_plain hcolor, content_code_plain hcolor, Look.gutterText, Row.label]
  · intro hstart hle hin row hrow
    obtain ⟨a, rfl⟩ := Int.eq_ofNat_of_zero_le hstart
    obtain ⟨b, rfl⟩ := Int.eq_ofNat_of_zero_le (Int.le_trans hstart hle)
    have hlabel : row.label.length ≤ look.width :=
      length_label_le (Int.ofNat_le.mp hle) (Int.ofNat_le.mp hin) indent hrow
    have hlength := Text.length_alignRight look.width row.label
    rw [Nat.max_eq_left hlabel] at hlength
    rw [row_plain hcolor]
    refine ⟨getElem?_gutterText look hlabel _, ?_, hlabel⟩
    rw [Look.gutterText, List.append_assoc, List.take_left' hlength]

/-- The last of ten lines is shown by an excerpt whose indent leaves one column for its number. -/
theorem print_shows_wide_number :
    let t : Text := List.replicate 8 '\n' ++ ['a', '\r', '\n', 'b']
    let look : Look := { width := 2 }
    let out : Text := "   |\n 9 | a\n   | ^^\n10 | b\n   | ^\n".toList
    (0 ≤ (8 : Int) ∧ (8 : Int) ≤ 12 ∧ 12 ≤ t.length) ∧ ¬ (9223372036854775810 : Int) - 2 ≤ Text.maxLength ∧
    render t 8 12 3 .error none false = .ok out ∧
    render t 8 12 9223372036854775810 .error none false = .error .width ∧
    Text.lines out = (rows t 8 12).map look.row ++ [[]] ∧
    codes (rows t 8 12) = [(9, ['a']), (10, ['b'])] ∧
    ∀ row ∈ rows t 8 12, (look.row row)[3]? = some '|' := by
  intro t look out
  have hwidth : numberWidth t 8 12 3 = look.width := by decide
  have hout : render t 8 12 3 .error none false = .ok out := toOption_eq_some_iff.mp (by decide +kernel)
  have hwide : ¬ (9223372036854775810 : Int) - 2 ≤ Text.maxLength := by decide +kernel
  obtain ⟨-, -, -, hlines, hcodes, -, -, hbar⟩ := print_shows t 8 12 3 .error none
  obtain ⟨-, hfails, -⟩ := print_shows t 8 12 9223372036854775810 .error none
  have hshort : Text.Numeral.isShort ((9223372036854775810 : Int) - 2) = true := by decide +kernel
  rw [hshort] at hfails
  rw [hwidth] at hlines hbar
  refine ⟨by decide, hwide, hout, hfails hwide, hlines out hout, hcodes.trans (by decide), ?_⟩
  intro row hrow
  exact (hbar (by decide) (by decide) (by decide) row hrow).1

/-- No excerpt is printed behind an indent of this size. -/
theorem render_rejects_indent :
    render ['a'] 0 1 9223372036854775810 .error none false = .error .width ∧
      ∀ out, render ['a'] 0 1 9223372036854775810 .error none false ≠ .ok out := by
  have hwide : ¬ (9223372036854775810 : Int) - 2 ≤ Text.maxLength := by decide +kernel
  have hshort : Text.Numeral.isShort ((9223372036854775810 : Int) - 2) = true := by decide +kernel
  have hfails := render_of_not_le hwide ['a'] 0 1 .error none false
  rw [hshort] at hfails
  refine ⟨hfails, fun out hout => ?_⟩
  cases hfails.symm.trans hout

end Excerpt

end Pinpoint

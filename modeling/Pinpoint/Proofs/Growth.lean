import Pinpoint.Proofs.Regions
import Pinpoint.Proofs.Writing

/-!
# Texts that grow at their end

What is appended to a text can only change the line that it continues. Where it
starts with a newline, or the text ends with one, there is no such line. All that
a snippet reads of its text then lies before the seam: the starts of its lines,
their ends, and the pieces up to the end of its region.

A region that begins at the very end of a finished text is an exception, since
what is appended is the line that it marks.
-/

namespace Pinpoint

namespace Text

/-- Appending `more` leaves the line at the position `o` as it is. -/
def SparesLine (t more : Text) (o : Nat) : Prop :=
  more.head? = some '\n' ∨ t.getLast? = some '\n' ∧ o < t.length

theorem BeginsLine.append {t : Text} {n o : Nat} (h : BeginsLine t n o) (more : Text) :
    BeginsLine (t ++ more) n o := by
  have hin := h.inside
  refine ⟨?_, ?_, ?_⟩
  · rw [List.length_append]
    omega
  · rw [List.take_append_of_le_length (Nat.le_of_lt hin)]
    exact h.newlines
  · rw [List.getElem?_append_left (by omega)]
    exact h.fresh

theorem HasLine.append {t : Text} {line : Int} (h : t.HasLine line) (more : Text) :
    HasLine (t ++ more) line := by
  obtain ⟨n, o, rfl, hbegins⟩ := h.exists_beginsLine
  exact hasLine_of_lineStart? (hbegins.append more).lineStart?_eq

/-- A line that was found is found at the same offset. -/
theorem HasLine.lineStart?_append {t : Text} {line : Int} (h : t.HasLine line) (more : Text) :
    lineStart? (t ++ more) line = t.lineStart? line := by
  obtain ⟨n, o, rfl, hbegins⟩ := h.exists_beginsLine
  rw [(hbegins.append more).lineStart?_eq, hbegins.lineStart?_eq]

section

variable {t : Text} {o : Nat} (more : Text)

theorem cut_append (h : o ≤ t.length) : cut (t ++ more).length o = cut t.length o := by
  rw [cut_ofNat h, cut_ofNat (by rw [List.length_append]; omega)]

theorem lineNumberAt_append (h : o ≤ t.length) :
    lineNumberAt (t ++ more) o = t.lineNumberAt o := by
  rw [lineNumberAt, lineNumberAt, cut_append more h, List.take_append_of_le_length (cut_le _ _)]

theorem lineBegin_append (h : o ≤ t.length) : lineBegin (t ++ more) o = t.lineBegin o := by
  simp only [lineBegin, cut_append more h, List.take_append_of_le_length (cut_le _ _)]

theorem slice_append (h : o ≤ t.length) (start : Nat) :
    slice (t ++ more) start o = t.slice start o := by
  rw [slice_natCast, slice_natCast, List.take_append_of_le_length h]

end

theorem lines_append_newline (t rest : Text) : lines (t ++ '\n' :: rest) = t.lines ++ rest.lines := by
  induction t using line_induction with
  | unfinished l hl => rw [lines_finished hl, lines_unfinished hl, List.singleton_append]
  | finished l more hl ih =>
    rw [List.append_assoc, List.cons_append, lines_finished hl, ih, lines_finished hl,
      List.cons_append]

/-- From a line that is spared on, the grown text has the same first lines, and
they reach up to the seam. -/
theorem SparesLine.exists_shared {t more : Text} {o : Nat} (h : SparesLine t more o)
    (ho : o ≤ t.length) :
    ∃ shared old new, lines (t.drop o) = shared ++ old ∧ lines ((t ++ more).drop o) = shared ++ new ∧
      shared ≠ [] ∧ t.length ≤ o + (unlines shared).length := by
  have hlength : (t.drop o).length = t.length - o := List.length_drop
  rw [List.drop_append_of_le_length ho]
  rcases h with hmore | ⟨hlast, hlt⟩
  · obtain ⟨rest, rfl⟩ := List.head?_eq_some_iff.mp hmore
    refine ⟨lines (t.drop o), [], lines rest, (List.append_nil _).symm,
      lines_append_newline _ _, fields_ne_nil _ _, ?_⟩
    rw [length_unlines_lines]
    omega
  · have hend : (t.drop o).getLast? = some '\n' := by
      rw [List.getLast?_drop, if_neg (by omega), hlast]
    obtain ⟨front, hfront⟩ := List.getLast?_eq_some_iff.mp hend
    refine ⟨lines front, lines [], more.lines, ?_, ?_, fields_ne_nil _ _, ?_⟩
    · rw [hfront, lines_append_newline]
    · rw [hfront, List.append_assoc, List.singleton_append, lines_append_newline]
    · rw [hfront, List.length_append, List.length_singleton] at hlength
      rw [length_unlines_lines]
      omega

theorem SparesLine.lineEnd_append {t more : Text} {o : Nat} (h : SparesLine t more o)
    (ho : o ≤ t.length) : lineEnd (t ++ more) o = t.lineEnd o := by
  obtain ⟨shared, old, new, hold, hnew, hne, -⟩ := h.exists_shared ho
  have hhead : ((t ++ more).drop o).takeWhile (· ≠ '\n') = (t.drop o).takeWhile (· ≠ '\n') := by
    rw [← Option.some.injEq, ← head?_lines, ← head?_lines, hold, hnew, List.head?_append_of_ne_nil _ hne,
      List.head?_append_of_ne_nil _ hne]
  rw [lineEnd_of_le ho, lineEnd_of_le (by rw [List.length_append]; omega), hhead]

end Text

namespace Excerpt

/-- Lines behind the end of the region add no rows. -/
theorem lineRows_append {start stop : Int} {point : Bool} {number begin : Nat} {lines : List Text}
    (hne : lines ≠ []) (hstop : stop ≤ (begin + (Text.unlines lines).length : Nat))
    (more : List Text) :
    lineRows start stop point number begin (lines ++ more) =
      lineRows start stop point number begin lines := by
  induction lines generalizing point number begin with
  | nil => exact absurd rfl hne
  | cons line rest ih =>
    rw [Text.length_unlines_cons] at hstop
    rw [List.cons_append, lineRows, lineRows]
    by_cases hover : stop ≤ (begin + line.length + 1 : Nat)
    · simp only [if_pos hover]
    · have hrest : rest ≠ [] := by
        rintro rfl
        have hnone : (Text.unlines []).length = 0 := rfl
        omega
      rw [if_neg hover, if_neg hover, ih hrest (by omega)]

variable {t more : Text} {start stop : Nat}

theorem rows_append (hspares : t.SparesLine more start) (hle : start ≤ stop) (hin : stop ≤ t.length) :
    rows (t ++ more) start stop = rows t start stop := by
  have hstart := hle.trans hin
  have hbegin := (Text.lineBegin_le_and_le_lineEnd hstart).1
  have hspared : t.SparesLine more (t.lineBegin start) :=
    hspares.imp id fun h => ⟨h.1, hbegin.trans_lt h.2⟩
  obtain ⟨shared, old, new, hold, hnew, hne, hlong⟩ := hspared.exists_shared (hbegin.trans hstart)
  have hstop : (stop : Int) ≤
      (t.lineBegin start + (Text.unlines shared).length : Nat) := by omega
  have hpoint : isPoint (t ++ more) start stop = isPoint t start stop := by
    rw [isPoint, isPoint, Text.slice_append more hin]
  simp only [rows, Text.lineBegin_append more hstart, Text.lineNumberAt_append more hstart, hpoint,
    hold, hnew, lineRows_append hne hstop]

theorem lastLine_append (hle : start ≤ stop) (hin : stop ≤ t.length) :
    lastLine (t ++ more) start stop = lastLine t start stop := by
  unfold lastLine
  by_cases hlt : (start : Int) < stop
  · have hlast : (stop : Int) - 1 = (stop - 1 : Nat) := by omega
    rw [if_pos hlt, if_pos hlt, hlast, Text.lineNumberAt_append more (by omega)]
  · rw [if_neg hlt, if_neg hlt, Text.lineNumberAt_append more (hle.trans hin)]

theorem print_append (hspares : t.SparesLine more start) (hle : start ≤ stop) (hin : stop ≤ t.length)
    (indent : Int) (emphasis : Emphasis) (file : Option Text) (color : Bool) :
    print (t ++ more) start stop indent emphasis file color =
      print t start stop indent emphasis file color := by
  simp only [print, numberWidth, lastLine_append hle hin, rows_append hspares hle hin]

end Excerpt

namespace Snippet

/-- The same snippet of a text that has grown. -/
def grown (s : Snippet) (more : Text) : Snippet :=
  { s with text := s.text ++ more }

theorem refusal?_grown {s : Snippet} (h : s.refusal? = none) (more : Text) :
    (s.grown more).refusal? = none := by
  obtain ⟨hstart, hfirst, hstop, hlast, hordered⟩ := refusal?_eq_none_iff.mp h
  exact refusal?_eq_none_iff.mpr ⟨hstart, fun line hline => (hfirst line hline).append more, hstop,
    fun line hline => (hlast line hline).append more, hordered⟩

theorem offsetOfLine_append {t : Text} {line : Option Int} (h : ∀ n ∈ line, t.HasLine n)
    (more : Text) (fallback : Int) :
    offsetOfLine (t ++ more) line fallback = offsetOfLine t line fallback := by
  cases line with
  | none => rfl
  | some n => simp only [offsetOfLine, Option.bind_some, (h n rfl).lineStart?_append more]

theorem stopOffset_grown {s : Snippet} {more : Text} (h : s.refusal? = none)
    (hseam : more.head? = some '\n' ∨ s.text.getLast? = some '\n') :
    (s.grown more).stopOffset = s.stopOffset := by
  obtain ⟨-, -, hstop, hlast, -⟩ := refusal?_eq_none_iff.mp h
  simp only [stopOffset, grown]
  cases hindex : s.stopIndex with
  | some index => rfl
  | none =>
    obtain ⟨n, o, hline, hbegins⟩ := exists_beginsLine_of_given hstop hlast hindex
    have hoffset : offsetOfLine s.text s.stopLine 0 = o := by
      rw [hline, offsetOfLine_eq s.text (Nat.le_add_left 1 n) hbegins]
    have hspares : s.text.SparesLine more o := hseam.imp id fun hend => ⟨hend, hbegins.inside⟩
    rw [offsetOfLine_append hlast, hoffset, hspares.lineEnd_append (Nat.le_of_lt hbegins.inside)]

theorem startOffset_grown {s : Snippet} (h : s.refusal? = none) (more : Text) :
    (s.grown more).startOffset = s.startOffset := by
  obtain ⟨-, hfirst, -, -, -⟩ := refusal?_eq_none_iff.mp h
  simp only [startOffset, grown, offsetOfLine_append hfirst]

theorem gutterOffsets_grown {s : Snippet} (h : s.refusal? = none) (more : Text) :
    (s.grown more).gutterOffsets = s.gutterOffsets := by
  obtain ⟨-, hfirst, -, hlast, -⟩ := refusal?_eq_none_iff.mp h
  simp only [gutterOffsets, grown, offsetOfLine_append hfirst, offsetOfLine_append hlast]

/-- What lies in a text lies in the grown one, and what is short stays so. -/
theorem writes_grown {s : Snippet} {numbers : List Int} (h : s.Writes numbers) (more : Text) :
    (s.grown more).Writes numbers := by
  intro n hn
  refine canWrite_iff.mpr ((canWrite_iff.mp (h n hn)).imp ?_ id)
  rintro ⟨hnonneg, hle⟩
  refine ⟨hnonneg, ?_⟩
  rw [grown, List.length_append]
  omega

theorem fault?_grown {s : Snippet} (h : s.fault? = none) (more : Text) :
    (s.grown more).fault? = none := by
  obtain ⟨hrefusal, hwrites⟩ := fault?_eq_none_iff.mp h
  refine fault?_eq_none_iff.mpr ⟨refusal?_grown hrefusal more, ?_⟩
  rw [drawnNumbers, gutterOffsets_grown hrefusal]
  exact writes_grown hwrites more

/-- Nothing is clamped at the end of the shorter text, so nothing is at that of the longer one. -/
theorem ownFrame_grown {s : Snippet} {more : Text} (h : s.refusal? = none)
    (hstart : ∀ index ∈ s.startIndex, index ≤ s.text.length)
    (hstop : ∀ index ∈ s.stopIndex, index ≤ s.text.length)
    (hseam : more.head? = some '\n' ∨ s.text.getLast? = some '\n') :
    (s.grown more).ownFrame = s.ownFrame := by
  have hclamp {offset : Int} (hle : offset ≤ s.text.length) :
      min offset.toNat (s.text ++ more).length = min offset.toNat s.text.length := by
    rw [List.length_append]
    omega
  have hstart' := hclamp (startOffset_le hstart)
  have hstop' := hclamp (stopOffset_le hstop)
  rw [ownFrame_eq, ownFrame_eq, startOffset_grown h, stopOffset_grown h hseam]
  rw [gutterOffsets_grown h]
  simp only [grown, hstart', hstop']

/-- What is appended to a text never changes a snippet of it, as long as the line
at the seam is not one that the snippet shows. -/
theorem build_grown {s : Snippet} {more out : Text} {color : Bool} (hbuild : s.build color = .ok out)
    (hstart : ∀ index ∈ s.startIndex, index ≤ s.text.length)
    (hstop : ∀ index ∈ s.stopIndex, index ≤ s.text.length)
    (hseam : more.head? = some '\n' ∨ s.text.getLast? = some '\n' ∧
      ∃ start stop, s.region s.resolve = .ok (start, stop) ∧ start < s.text.length) :
    (s.grown more).build color = .ok out := by
  obtain ⟨hfault, hdraw⟩ := build_eq_ok_iff.mp hbuild
  have hrefusal := (fault?_eq_none_iff.mp hfault).1
  have hframe := ownFrame_grown hrefusal hstart hstop (hseam.imp id And.left)
  have hspares : s.text.SparesLine more s.ownFrame.start := by
    refine hseam.imp id ?_
    rintro ⟨hend, start, stop, hregion, hlt⟩
    obtain ⟨rfl, -⟩ := Prod.mk.inj (Except.ok.inj (s.region_resolve.symm.trans hregion))
    exact ⟨hend, hlt⟩
  refine build_eq_ok_iff.mpr ⟨fault?_grown hfault more, ?_⟩
  rw [hframe, ← hdraw]
  simp only [draw, grown, Excerpt.print_append hspares s.ownFrame_ordered s.ownFrame_within]

/-- A region up to the end of a finished text, which then grows by an unfinished line. -/
theorem build_grown_up_to_end :
    let s : Snippet :=
      { text := ['a', '\n', 'b', '\r', '\n'], startLine := some 1, startIndex := some (-3), stopIndex := some 5 }
    ((∀ index ∈ s.startIndex, index ≤ s.text.length) ∧ (∀ index ∈ s.stopIndex, index ≤ s.text.length) ∧
      s.text.getLast? = some '\n' ∧ s.region s.resolve = .ok (0, 5) ∧ 0 < s.text.length) ∧
    ∃ out, s.build false = .ok out ∧ (s.grown ['c']).build false = .ok out := by
  intro s
  have hstart : ∀ index ∈ s.startIndex, index ≤ s.text.length := by decide
  have hstop : ∀ index ∈ s.stopIndex, index ≤ s.text.length := by decide
  have hregion : s.region s.resolve = .ok (0, 5) := by rfl
  have hbuild : s.build false = .ok (s.draw s.ownFrame false) :=
    build_eq_ok_iff.mpr ⟨by decide +kernel, rfl⟩
  refine ⟨⟨hstart, hstop, rfl, hregion, by decide⟩, _, hbuild, ?_⟩
  exact build_grown hbuild hstart hstop (Or.inr ⟨rfl, 0, 5, hregion, by decide⟩)

/-- A region at the very end is drawn under the line that is appended. -/
example :
    let s : Snippet := { text := ['a', '\n'], startIndex := some 2, stopIndex := some 2 }
    ((s.grown ['b']).build false).toOption ≠ (s.build false).toOption := by
  decide +kernel

end Snippet

end Pinpoint

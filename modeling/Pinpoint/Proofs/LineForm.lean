import Pinpoint.Proofs.LineSpans
import Pinpoint.Proofs.ShownLines
import Pinpoint.Proofs.Writing

/-!
# Snippets given by two lines

The region of such a snippet begins where its first line begins and ends at the
newline of its last line. An empty last line behind other lines begins at this
end and is left out, because no position of it belongs to the region.
-/

namespace Pinpoint

namespace Text

/-- The newlines before the last character of a line are those before the line,
and an empty line has the newline that it follows as its last character. -/
theorem BeginsLine.count_take_end {t line : Text} {n o : Nat} (h : BeginsLine t n o)
    (hline : t.lines[n]? = some line) :
    (t.take (o + line.length - 1)).count '\n' = if line = [] then n - 1 else n := by
  split
  · next hempty =>
    subst hempty
    cases o with
    | zero =>
      have hn := h.newlines
      simp at hn ⊢
      omega
    | succ o =>
      have hn := h.newlines
      rw [List.take_add_one, h.newline_before, List.count_append] at hn
      simp at hn ⊢
      omega
  · next hne =>
    have hpos := List.length_pos_of_ne_nil hne
    have hend := h.lineEnd_eq hline
    exact h.spansLine.count_take (by omega) (by omega)

end Text

namespace Snippet

open Excerpt (codes shownLine)

/-- The region of a text from one line to another. -/
def ofLines (text : Text) (file caption : Option Text) (emphasis : Excerpt.Emphasis)
    (first last : Nat) : Snippet :=
  { text, file, caption, emphasis, startLine := some first, stopLine := some last }

section

variable (text : Text) (file caption : Option Text) (emphasis : Excerpt.Emphasis)

theorem fault?_ofLines {first last : Nat} (hpos : 1 ≤ first) (hle : first ≤ last)
    (hin : last ≤ text.lineCount) :
    (ofLines text file caption emphasis first last).fault? = none := by
  have hfirst : text.HasLine first := ⟨by omega, by omega⟩
  have hlast : text.HasLine last := ⟨by omega, by omega⟩
  exact fault?_of_lines (by simp [refusal?, ofLines, hfirst, hlast, hle]) rfl rfl

/-- The region of two lines needs no clamping and no reordering. -/
theorem ownFrame_ofLines {first last a b : Nat} {line : Text} (hpos : 1 ≤ first)
    (hle : first ≤ last) (ha : text.BeginsLine (first - 1) a) (hb : text.BeginsLine (last - 1) b)
    (hline : text.lines[last - 1]? = some line) :
    let frame := (ofLines text file caption emphasis first last).ownFrame
    frame.start = a ∧ frame.stop = b + line.length := by
  have hend : text.lineEnd b = b + line.length := hb.lineEnd_eq hline
  have hin : b + line.length ≤ text.length := by
    rw [← hend]
    exact text.lineEnd_le b
  have hab : a ≤ b := ha.le_of_le hb (by omega)
  simp only [ownFrame, ofLines, Option.getD_none, offsetOfLine_eq text hpos ha,
    offsetOfLine_eq text (hpos.trans hle) hb, hend]
  omega

/-- The lines that are shown between two lines of the text. -/
theorem codes_ofLines {first last : Nat} (hpos : 1 ≤ first) (hle : first ≤ last)
    (hin : last ≤ text.lineCount) :
    let frame := (ofLines text file caption emphasis first last).ownFrame
    codes (Excerpt.rows text frame.start frame.stop) =
      (List.range' first
        (if first < last ∧ text.lines[last - 1]? = some [] then last - first
          else last + 1 - first)).map (shownLine text) := by
  obtain ⟨a, ha⟩ := Text.exists_beginsLine_iff.mpr (show first - 1 < text.lineCount by omega)
  obtain ⟨b, hb⟩ := Text.exists_beginsLine_iff.mpr (show last - 1 < text.lineCount by omega)
  have hline := hb.getElem?_lines
  generalize (text.drop b).takeWhile (· ≠ '\n') = line at hline
  obtain ⟨hstart, hstop⟩ :=
    ownFrame_ofLines text file caption emphasis hpos hle ha hb hline
  intro frame
  rw [hstart, hstop, Excerpt.codes_rows, Excerpt.shownNumbers, ha.lineNumberAt_eq, Excerpt.lastShown,
    ha.lineNumberAt_eq, show ((b + line.length : Nat) - 1 : Int).toNat = b + line.length - 1 by omega,
    hb.count_take_end hline, hline]
  by_cases hempty : line = []
  · by_cases hlt : first < last
    · simp only [hempty, hlt, ↓reduceIte, and_self]
      congr 2 <;> omega
    · simp only [hempty, hlt, ↓reduceIte, false_and]
      congr 2 <;> omega
  · simp only [hempty, ↓reduceIte, Option.some.injEq, and_false]
    congr 2 <;> omega

/-- A region from one line to another is always built, and its code rows are the
lines in between, each once and in order. The last line is among them exactly
when it is the only one or has a character; otherwise the row before it is the
last. -/
theorem ofLines_shows {first last : Nat} (hpos : 1 ≤ first) (hle : first ≤ last)
    (hin : last ≤ text.lineCount) :
    let s := ofLines text file caption emphasis first last
    ∃ frame, s.frame s.resolve = .ok frame ∧ s.build false = .ok (s.draw frame false) ∧
      (codes (Excerpt.rows text frame.start frame.stop) =
          (List.range' first (last + 1 - first)).map (shownLine text) ↔
        (first = last ∨ text.lines[last - 1]? ≠ some [])) ∧
      (first < last → text.lines[last - 1]? = some [] →
        codes (Excerpt.rows text frame.start frame.stop) =
          (List.range' first (last - first)).map (shownLine text)) := by
  intro s
  have hcodes := codes_ofLines text file caption emphasis hpos hle hin
  have hdrawn : s.fault? = none := fault?_ofLines text file caption emphasis hpos hle hin
  refine ⟨s.ownFrame, frame_of_drawn hdrawn, build_eq_ok_iff.mpr ⟨hdrawn, rfl⟩, ?_, ?_⟩
  · rw [hcodes]
    constructor
    · intro heq
      have hlength := congrArg List.length heq
      simp only [List.length_map, List.length_range'] at hlength
      by_contra hnot
      rw [not_or, not_not] at hnot
      rw [if_pos ⟨by omega, hnot.2⟩] at hlength
      omega
    · intro hshown
      rw [if_neg (by rcases hshown with h | h <;> simp_all)]
  · intro hlt hempty
    rw [hcodes, if_pos ⟨hlt, hempty⟩]

/-- Empty lines at the front and in the middle are shown. -/
theorem ofLines_shows_blank_lines :
    let text := ['\n', 'a', '\n', '\n', 'b']
    (1 ≤ 1 ∧ 1 ≤ 4 ∧ 4 ≤ Text.lineCount text) ∧
    let s := ofLines text none none .error 1 4
    ∃ frame, s.frame s.resolve = .ok frame ∧ s.build false = .ok (s.draw frame false) ∧
      codes (Excerpt.rows text frame.start frame.stop) =
        [(1, []), (2, ['a']), (3, []), (4, ['b'])] := by
  refine ⟨by decide, ?_⟩
  have hshows := @ofLines_shows ['\n', 'a', '\n', '\n', 'b'] none none .error 1 4
    (by decide) (by decide) (by decide)
  obtain ⟨frame, hframe, hbuild, hcodes, -⟩ := hshows
  exact ⟨frame, hframe, hbuild, hcodes.mpr (Or.inr (by decide))⟩

/-- The second of these two lines is empty, and the excerpt ends with the first. -/
theorem ofLines_hides_empty_last :
    let text := ['a', '\n', '\n', 'b', '\n']
    let s := ofLines text none none .error 1 2
    Text.HasLine text 2 ∧
    (s.build false).toOption = some "    1\n   |\n 1 | a\n   | ^\n".toList ∧
    codes (Excerpt.rows text s.ownFrame.start s.ownFrame.stop) ≠
      (List.range' 1 2).map (shownLine text) := by
  refine ⟨by decide, by decide +kernel, by decide⟩

end

end Snippet

end Pinpoint

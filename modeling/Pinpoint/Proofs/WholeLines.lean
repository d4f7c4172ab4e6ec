import Pinpoint.Proofs.LineForm
import Pinpoint.Proofs.MarkerColumns

/-!
# Markers below whole lines

A snippet given by two lines marks the whole of each line that it shows. The carriage
returns at the end of a line belong to it: they are marked, but they are not shown. So the
markers fit below the shown text exactly where none was taken away, and run past its end
by one column for each that was.
-/

namespace Pinpoint

namespace Excerpt

variable {t : Text}

/-- A region from the start of a line to the end of a later one shows no line outside. -/
theorem mem_shownNumbers_lines {m n a b number : Nat} (ha : t.BeginsLine m a)
    (hb : t.BeginsLine n b) (hmn : m ≤ n) (h : number ∈ shownNumbers t a (t.lineEnd b)) :
    m + 1 ≤ number ∧ number ≤ n + 1 := by
  have hspans := hb.spansLine
  have hle : a ≤ t.lineEnd b := (ha.le_of_le hb hmn).trans hspans.ordered
  have hlast : lastShown t a (t.lineEnd b) ≤ t.lineNumberAt (t.lineEnd b) := by
    rw [lastShown_eq hle hspans.within]
    split
    · exact Text.lineNumberAt_mono (Nat.sub_le _ _) hspans.within
    · exact Text.lineNumberAt_mono hle hspans.within
  rw [hspans.lineNumberAt_eq hspans.ordered (Nat.le_refl _)] at hlast
  rw [mem_shownNumbers, ha.lineNumberAt_eq] at h
  omega

/-- Below a line that the region holds as a whole stand as many markers as the line has
characters, without a blank in front of them. -/
theorem underText_whole {start stop : Nat} (hle : start ≤ stop) (hin : stop ≤ t.length)
    (marker : Char) {number b : Nat} {line : Text} (hline : t.lines[number - 1]? = some line)
    (hbegin : t.pieceBegin (number - 1) = b) (hfrom : start ≤ b) (hto : b + line.length ≤ stop)
    (hne : line ≠ []) :
    underText t start stop marker number = some (List.replicate line.length marker) := by
  have hpos := List.length_pos_of_ne_nil hne
  have hvisible : isPoint t start stop = false := by
    rw [Bool.eq_false_iff]
    intro hpoint
    have hnone := no_stretch_of_isPoint hle hin hpoint hline
    rw [hbegin] at hnone
    omega
  have hcount : markerCount t start stop number b line.length = line.length := by
    rw [markerCount, hvisible, Bool.false_and, if_neg Bool.false_ne_true]
    omega
  rw [underText_eq marker hline hbegin, hcount, if_pos hpos, Nat.max_eq_right hfrom, Nat.sub_self,
    List.take_zero]
  rfl

/-- Between two lines each line with a shown character is marked from its first character
to the last carriage return behind it. -/
theorem underText_between {m n a b number : Nat} (ha : t.BeginsLine m a) (hb : t.BeginsLine n b)
    (hmn : m ≤ n) (hnumber : number ∈ shownNumbers t a (t.lineEnd b)) (marker : Char)
    (hshown : (shownLine t number).2 ≠ []) :
    ∃ k, t.lines[number - 1]? = some ((shownLine t number).2 ++ List.replicate k '\r') ∧
      underText t a (t.lineEnd b) marker number =
        some (List.replicate ((shownLine t number).2.length + k) marker) := by
  obtain ⟨hfrom, hto⟩ := mem_shownNumbers_lines ha hb hmn hnumber
  have hcount := Text.exists_beginsLine_iff.mp ⟨b, hb⟩
  obtain ⟨o, ho⟩ := Text.exists_beginsLine_iff.mpr (show number - 1 < t.lineCount by omega)
  have hline := ho.getElem?_lines
  generalize (t.drop o).takeWhile (· ≠ '\n') = line at hline
  have hdisplayed : (shownLine t number).2 = Text.trimEnd '\r' line := by
    rw [shownLine, List.getD_eq_getElem?_getD, hline, Option.getD_some]
  obtain ⟨k, hk⟩ := Text.exists_trimEnd_append '\r' line
  rw [← hdisplayed] at hk
  have hspans := hb.spansLine
  have hend : o + line.length ≤ t.lineEnd b := by
    rw [← ho.lineEnd_eq hline]
    exact ho.lineEnd_le_of_le hb (by omega)
  have hne : line ≠ [] := by
    intro hempty
    rw [hk, List.append_eq_nil_iff] at hempty
    exact hshown hempty.1
  have hunder := underText_whole ((ha.le_of_le hb hmn).trans hspans.ordered) hspans.within marker
    hline ho.beginsPiece.pieceBegin_eq (ha.le_of_le ho (by omega)) hend hne
  refine ⟨k, hk ▸ hline, ?_⟩
  rw [hunder, hk, List.length_append, List.length_replicate]

end Excerpt

namespace Snippet

open Excerpt (shownLine shownNumbers)

/-- A snippet of two lines is built, and below each line with a shown character stand
markers alone, one for each shown character and one for each carriage return behind it.
They fit below the shown text exactly where that is the whole line. -/
theorem ofLines_underlines (text : Text) (file caption : Option Text) (emphasis : Excerpt.Emphasis)
    {first last : Nat} (hpos : 1 ≤ first) (hle : first ≤ last) (hin : last ≤ text.lineCount) :
    let s := ofLines text file caption emphasis first last
    ∃ (frame : Frame) (under : Nat → Option Text),
      s.frame s.resolve = .ok frame ∧
      s.build false = .ok (s.preamble frame false ++
        Excerpt.print text frame.start frame.stop frame.indent emphasis file false) ∧
      Text.lines (Excerpt.print text frame.start frame.stop frame.indent emphasis file false) =
        (s.look frame false).plainLines text (shownNumbers text frame.start frame.stop) under ++
          [[]] ∧
      ∀ number ∈ shownNumbers text frame.start frame.stop,
        let shown := (shownLine text number).2
        shown ≠ [] →
          (∃ k, text.lines[number - 1]? = some (shown ++ List.replicate k '\r') ∧
            under number = some (List.replicate (shown.length + k) emphasis.marker)) ∧
          (under number = some (List.replicate shown.length emphasis.marker) ↔
            text.lines[number - 1]? = some shown) := by
  intro s
  have hdrawn : s.fault? = none := fault?_ofLines text file caption emphasis hpos hle hin
  refine ⟨s.ownFrame, _, frame_of_drawn hdrawn, build_eq_ok_iff.mpr ⟨hdrawn, rfl⟩,
    Excerpt.lines_print _ _ _ _ _ _, ?_⟩
  obtain ⟨a, ha⟩ := Text.exists_beginsLine_iff.mpr (show first - 1 < text.lineCount by omega)
  obtain ⟨b, hb⟩ := Text.exists_beginsLine_iff.mpr (show last - 1 < text.lineCount by omega)
  have hmn : first - 1 ≤ last - 1 := Nat.sub_le_sub_right hle 1
  have hframe := ownFrame_ofLines text file caption emphasis hpos hle ha hb hb.getElem?_lines
  rw [← hb.lineEnd_eq hb.getElem?_lines] at hframe
  obtain ⟨hstart, hstop⟩ := hframe
  intro number hnumber shown hshown
  rw [hstart, hstop] at hnumber ⊢
  obtain ⟨k, hline, hunder⟩ :
      ∃ k, text.lines[number - 1]? = some (shown ++ List.replicate k '\r') ∧
        Excerpt.underText text a (text.lineEnd b) emphasis.marker number =
          some (List.replicate (shown.length + k) emphasis.marker) :=
    Excerpt.underText_between ha hb hmn hnumber emphasis.marker hshown
  refine ⟨⟨k, hline, hunder⟩, ?_⟩
  rw [hunder, hline, Option.some.injEq, Option.some.injEq, List.append_right_eq_self,
    List.replicate_inj, List.replicate_eq_nil_iff]
  exact ⟨fun h => by omega, fun h => ⟨by omega, Or.inr rfl⟩⟩

/-- A tab with two carriage returns behind it, and a line that is shown as a whole. -/
theorem ofLines_underlines_returns :
    let text : Text := ['\n', '\t', '\r', '\r', '\n', 'b', 'c', '\n']
    let s := ofLines text none none .warning 1 3
    let numbers := shownNumbers text (0 : Nat) (7 : Nat)
    (1 ≤ 1 ∧ 1 ≤ 3 ∧ 3 ≤ text.lineCount) ∧ s.frame s.resolve = .ok { indent := 4, start := 0, stop := 7 } ∧
    2 ∈ numbers ∧ (shownLine text 2).2 ≠ [] ∧ 3 ∈ numbers ∧ (shownLine text 3).2 ≠ [] ∧
    ∃ under : Nat → Option Text,
      Text.lines (Excerpt.print text (0 : Nat) (7 : Nat) (4 : Nat) .warning none false) =
        (s.look { indent := 4, start := 0, stop := 7 } false).plainLines text numbers under ++ [[]] ∧
      under 2 = some ['~', '~', '~'] ∧ under 3 = some ['~', '~'] := by
  intro text s numbers
  have hown : s.frame s.resolve = .ok { indent := 4, start := 0, stop := 7 } := by rfl
  have htwo : 2 ∈ numbers := by decide
  have hthree : 3 ∈ numbers := by decide
  obtain ⟨frame, under, hframe, -, hlines, hunder⟩ :=
    @ofLines_underlines text none none .warning 1 3 (by decide) (by decide) (by decide)
  obtain rfl : { indent := 4, start := 0, stop := 7 } = frame := Except.ok.inj (hown.symm.trans hframe)
  have hshown : (shownLine text 2).2 = ['\t'] := by decide
  obtain ⟨⟨k, hline, hreturns⟩, -⟩ := hunder 2 htwo (by decide)
  rw [hshown] at hline hreturns
  have hlength : 3 = (['\t'] ++ List.replicate k '\r').length :=
    congrArg List.length (Option.some.inj hline)
  rw [List.length_append, List.length_singleton, List.length_replicate] at hlength
  obtain rfl : 2 = k := by omega
  exact ⟨by decide, hown, htwo, by decide, hthree, by decide, under, hlines, hreturns,
    (hunder 3 hthree (by decide)).2.mpr (by decide)⟩

/-- Two characters of this line are shown, and three markers stand below them. -/
theorem ofLines_underlines_past_end :
    let text : Text := ['a', 'b', '\r', '\n']
    let s := ofLines text none none .error 1 1
    text.HasLine 1 ∧ (shownLine text 1).2 = ['a', 'b'] ∧
    (s.build false).toOption = some "    1\n   |\n 1 | ab\n   | ^^^\n".toList ∧
    Excerpt.underText text s.ownFrame.start s.ownFrame.stop '^' 1 ≠
      some (List.replicate (shownLine text 1).2.length '^') := by
  refine ⟨by decide, by decide, by decide +kernel, by decide⟩

end Snippet

end Pinpoint

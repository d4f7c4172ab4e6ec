import Pinpoint.Proofs.Lines
import Pinpoint.Proofs.Results
import Pinpoint.Snippet.Basic

/-!
# What refuses a snippet

`refusal?` is the table of refusals over line numbers and the number of lines,
without any offset. Validation compares resolved offsets instead. The two agree
because later lines begin at later offsets. The values of the indexes occur in
neither.

What a snippet shows is read off its own lines and indexes in the same way, with no
positions in between.
-/

namespace Pinpoint.Snippet

/-- The first rule that refuses the snippet. -/
def refusal? (s : Snippet) : Option Error :=
  if s.startIndex = none ∧ s.startLine = none then some .startMissing
  else if ∃ line ∈ s.startLine, ¬ s.text.HasLine line then s.startLine.map .startLineAbsent
  else if s.stopIndex = none ∧ s.stopLine = none then some .stopMissing
  else if ∃ line ∈ s.stopLine, ¬ s.text.HasLine line then s.stopLine.map .stopLineAbsent
  else if ∃ first ∈ s.startLine, ∃ last ∈ s.stopLine, last < first then
    some (.linesReversed s.stopLine s.startLine)
  else none

/-- A rule of the table that has something to report is passed over only if it does not apply. -/
theorem rule_eq_none_iff {rule : Prop} [Decidable rule] {report rest : Option Error}
    (h : rule → report ≠ none) : (if rule then report else rest) = none ↔ ¬ rule ∧ rest = none := by
  by_cases hrule : rule
  · simp [hrule, h hrule]
  · simp [hrule]

theorem map_ne_none {α β : Type} {o : Option α} {p : α → Prop} (f : α → β) (h : ∃ a ∈ o, p a) :
    o.map f ≠ none := by
  obtain ⟨a, ha, -⟩ := h
  rw [Option.mem_def.mp ha]
  exact Option.some_ne_none _

/-- A snippet is not refused if its ends are given, its lines exist and they are in order. -/
theorem refusal?_eq_none_iff {s : Snippet} :
    s.refusal? = none ↔
      (s.startIndex ≠ none ∨ s.startLine ≠ none) ∧ (∀ line ∈ s.startLine, s.text.HasLine line) ∧
      (s.stopIndex ≠ none ∨ s.stopLine ≠ none) ∧ (∀ line ∈ s.stopLine, s.text.HasLine line) ∧
      ∀ first ∈ s.startLine, ∀ last ∈ s.stopLine, first ≤ last := by
  rw [refusal?, rule_eq_none_iff (fun _ => Option.some_ne_none _), rule_eq_none_iff (map_ne_none _),
    rule_eq_none_iff (fun _ => Option.some_ne_none _), rule_eq_none_iff (map_ne_none _),
    rule_eq_none_iff (fun _ => Option.some_ne_none _)]
  simp only [not_and_or, not_exists, not_not, Int.not_lt, and_true, ne_eq, imp_iff_not_or]

/-- The offset of a line, or the fallback where the text has no such line. -/
def offsetOfLine (text : Text) (line : Option Int) (fallback : Int) : Int :=
  match line.bind text.lineStart? with
  | some offset => offset
  | none => fallback

theorem isValid_ofLine (text : Text) (line : Option Int) :
    (LineOffset.ofLine text line).isValid = .ok (line.bind text.lineStart?).isSome := by
  unfold LineOffset.ofLine
  cases line.bind text.lineStart? <;> rfl

theorem offsetOr_ofLine (text : Text) (line : Option Int) (fallback : Int) :
    (LineOffset.ofLine text line).offsetOr fallback = .ok (offsetOfLine text line fallback) := by
  unfold LineOffset.ofLine offsetOfLine
  cases line.bind text.lineStart? <;> rfl

theorem offsetOfLine_eq (text : Text) {line o : Nat} (hpos : 1 ≤ line)
    (h : text.BeginsLine (line - 1) o) (fallback : Int) :
    offsetOfLine text (some line) fallback = o := by
  have hstart := h.lineStart?_eq
  rw [Nat.sub_add_cancel hpos] at hstart
  simp [offsetOfLine, hstart]

theorem offsetOfLine_le (text : Text) (line : Option Int) :
    offsetOfLine text line 0 ≤ text.length := by
  unfold offsetOfLine
  split
  · next o ho =>
    obtain ⟨n, -, hn⟩ := Option.bind_eq_some_iff.mp ho
    have hin := (Text.lineStart?_eq_some_iff.mp hn).2.inside
    omega
  · omega

/-- Offsets of lines are ordered as their numbers are. -/
theorem offsetOfLine_lt_iff {text : Text} {m n : Int} (hm : text.HasLine m)
    (hn : text.HasLine n) :
    offsetOfLine text (some m) 0 < offsetOfLine text (some n) 0 ↔ m < n := by
  obtain ⟨a, ha⟩ := Option.isSome_iff_exists.mp (Text.lineStart?_isSome_iff.mpr hm)
  obtain ⟨b, hb⟩ := Option.isSome_iff_exists.mp (Text.lineStart?_isSome_iff.mpr hn)
  have hma := Text.lineStart?_eq_some_iff.mp ha
  have hnb := Text.lineStart?_eq_some_iff.mp hb
  simp only [offsetOfLine, Option.bind_some, ha, hb, Int.ofNat_lt]
  constructor
  · intro hlt
    by_contra hle
    rcases Int.lt_or_eq_of_le (Int.not_lt.mp hle) with hgt | rfl
    · have := hnb.2.lt_of_lt hma.2 (by omega)
      omega
    · simp_all
  · intro hlt
    have := hma.2.lt_of_lt hnb.2 (by omega)
    omega

theorem refusals_head? (s : Snippet) :
    (s.refusals (s.startLine.bind s.text.lineStart?).isSome
      (s.stopLine.bind s.text.lineStart?).isSome
      (offsetOfLine s.text s.stopLine 0 < offsetOfLine s.text s.startLine 0)).head? =
    s.refusal? := by
  have hvalid (line : Int) : (s.text.lineStart? line).isSome = decide (s.text.HasLine line) := by
    rw [Bool.eq_iff_iff, Text.lineStart?_isSome_iff, decide_eq_true_iff]
  simp only [refusals, List.head?_append, refusal?]
  rcases hfirst : s.startLine with _ | first <;> rcases hlast : s.stopLine with _ | last
  · by_cases hi : s.startIndex = none <;> by_cases hj : s.stopIndex = none <;> simp [hi, hj]
  · by_cases hi : s.startIndex = none <;> by_cases hl : s.text.HasLine last <;>
      simp [hvalid, hi, hl]
  · by_cases hf : s.text.HasLine first <;> by_cases hj : s.stopIndex = none <;>
      simp [hvalid, hf, hj]
  · by_cases hf : s.text.HasLine first <;> by_cases hl : s.text.HasLine last
    · by_cases hlt : last < first <;> simp [hvalid, hf, hl, offsetOfLine_lt_iff hl hf, hlt]
    all_goals simp [hvalid, hf, hl]

/-- The first rule of the table is what a validation ends with, once its message is written. -/
theorem validate_resolve (s : Snippet) :
    s.validate s.resolve =
      match s.refusal? with
      | some error => s.refuse error
      | none => .ok () := by
  rw [← refusals_head?, validate, resolve]
  simp only [isValid_ofLine, offsetOr_ofLine, mapError_ok, bind, Except.bind]
  split <;> simp_all

/-- The offsets that the gutter is made for: those of the lines, or else the indexes. -/
def gutterOffsets (s : Snippet) : List Int :=
  [offsetOfLine s.text s.startLine (s.startIndex.getD 0),
    offsetOfLine s.text s.stopLine (s.stopIndex.getD 0)]

/-- The frame read off the lines and indexes of the snippet itself. -/
def ownFrame (s : Snippet) : Frame :=
  let clamp (offset : Int) := min offset.toNat s.text.length
  let start := clamp (s.startIndex.getD (offsetOfLine s.text s.startLine 0))
  let stop := clamp (s.stopIndex.getD (s.text.lineEnd (offsetOfLine s.text s.stopLine 0)))
  { indent := Excerpt.indentWidth s.gutterOffsets
    start := min start stop
    stop := max start stop }

/-- Where the region starts before it is clamped: at the index, or else at the line. -/
def startOffset (s : Snippet) : Int :=
  s.startIndex.getD (offsetOfLine s.text s.startLine 0)

/-- Where the region stops before it is clamped: at the index, or else at the line's end. -/
def stopOffset (s : Snippet) : Int :=
  s.stopIndex.getD (s.text.lineEnd (offsetOfLine s.text s.stopLine 0))

theorem ownFrame_eq (s : Snippet) :
    s.ownFrame =
      { indent := Excerpt.indentWidth s.gutterOffsets
        start := min (min s.startOffset.toNat s.text.length) (min s.stopOffset.toNat s.text.length)
        stop := max (min s.startOffset.toNat s.text.length)
          (min s.stopOffset.toNat s.text.length) } := rfl

theorem ownFrame_ordered (s : Snippet) : s.ownFrame.start ≤ s.ownFrame.stop := by
  rw [ownFrame_eq]
  simp only
  omega

theorem ownFrame_within (s : Snippet) : s.ownFrame.stop ≤ s.text.length := by
  rw [ownFrame_eq]
  simp only
  omega

theorem startOffset_le {s : Snippet} (h : ∀ index ∈ s.startIndex, index ≤ s.text.length) :
    s.startOffset ≤ s.text.length := by
  unfold startOffset
  cases hindex : s.startIndex with
  | none => exact offsetOfLine_le _ _
  | some index => exact h index hindex

theorem stopOffset_le {s : Snippet} (h : ∀ index ∈ s.stopIndex, index ≤ s.text.length) :
    s.stopOffset ≤ s.text.length := by
  unfold stopOffset
  cases hindex : s.stopIndex with
  | none => exact Int.ofNat_le.mpr (Text.lineEnd_le _ _)
  | some index => exact h index hindex

theorem region_resolve (s : Snippet) :
    s.region s.resolve = .ok (s.ownFrame.start, s.ownFrame.stop) := by
  simp only [region, resolve, offsetOr_ofLine, ownFrame]
  cases s.startIndex <;> cases s.stopIndex <;> rfl

/-- The frame is there as soon as the digits of the largest offset can be counted. -/
theorem frame_resolve (s : Snippet) :
    s.frame s.resolve =
      (s.checkNumbers [Excerpt.largest s.gutterOffsets]).map fun _ => s.ownFrame := by
  rw [frame, region_resolve]
  simp only [resolve, offsetOr_ofLine, mapError_ok, bind, Except.bind, gutterOffsets]
  generalize s.checkNumbers _ = checked
  cases checked <;> rfl

end Pinpoint.Snippet

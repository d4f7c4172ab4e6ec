import Pinpoint.Proofs.Widths
import Pinpoint.Proofs.Writing

/-!
# Drawing part by part

A snippet checks its numbers and is then drawn as a whole. In a text that is not too long
itself this is the same as making the parts one after another, each of which checks what
it writes: the size of the gutter, the location, the caption and the excerpt. For the
gutter never becomes so wide that a run of blanks or an aligned label is too large.
-/

namespace Pinpoint

namespace Text

theorem forM_checkNumber (numbers : List Int) :
    numbers.forM checkNumber =
      if ∀ n ∈ numbers, Numeral.isShort n = true then .ok () else .error .numeral := by
  induction numbers with
  | nil => rfl
  | cons n more ih =>
    change (checkNumber n >>= fun _ => more.forM checkNumber) = _
    rw [ih, checkNumber]
    by_cases hn : Numeral.isShort n = true
    · by_cases hmore : ∀ m ∈ more, Numeral.isShort m = true <;>
        simp [hn, hmore, bind, Except.bind]
    · simp [hn, bind, Except.bind]

end Text

namespace Excerpt

variable {indent : Nat}

theorem location_eq (h : indent ≤ Text.maxLength) (file : Option Text) (line index : Option Int) :
    location indent file line index =
      ((line.toList ++ index.toList).forM Text.checkNumber).map fun _ =>
        locationLine indent file line index := by
  rw [location, Text.checkLength_of_le (Int.ofNat_le.mpr h)]
  cases (line.toList ++ index.toList).forM Text.checkNumber with
  | error part => rfl
  | ok _ => cases file.isSome || line.isSome || index.isSome <;> rfl

theorem caption_eq (h : indent ≤ Text.maxLength) (text : Option Text) (color : Bool) :
    caption indent text color = .ok (captionLine indent text color) := by
  rw [caption, Text.checkLength_of_le (by omega)]
  cases text.isSome <;> rfl

end Excerpt

namespace Snippet

variable {s : Snippet} {p : Positions}

theorem canWrite_eq_isShort (h : s.text.length ≤ Text.maxLength) (n : Int) :
    s.canWrite n = Text.Numeral.isShort n := by
  rw [Bool.eq_iff_iff, canWrite_iff, or_iff_right_iff_imp]
  rintro ⟨hnonneg, hle⟩
  obtain ⟨k, rfl⟩ := Int.eq_ofNat_of_zero_le hnonneg
  exact Text.isShort_of_le_maxLength (by omega)

theorem checkNumbers_eq_forM (h : s.text.length ≤ Text.maxLength) (numbers : List Int) :
    s.checkNumbers numbers = (numbers.forM Text.checkNumber).mapError .tooLarge := by
  have hcan : s.canWrite = Text.Numeral.isShort := funext (canWrite_eq_isShort h)
  rw [checkNumbers_eq, Text.forM_checkNumber]
  simp only [Writes, hcan]
  split <;> rfl

theorem frame_eq_parts (h : s.text.length ≤ Text.maxLength) :
    s.frame p = (do
      let start ← (p.start.offsetOr (s.startIndex.getD 0)).mapError .read
      let stop ← (p.stop.offsetOr (s.stopIndex.getD 0)).mapError .read
      let indent ← (Excerpt.indentSize [start, stop]).mapError .tooLarge
      let (first, last) ← (s.region p).mapError .read
      return { indent, start := first, stop := last }) := by
  have hsize (offsets : List Int) :
      (Excerpt.indentSize offsets).mapError Fault.tooLarge =
        (s.checkNumbers [Excerpt.largest offsets]).map fun _ => Excerpt.indentWidth offsets := by
    rw [Excerpt.indentSize_eq, checkNumbers, List.all_cons, List.all_nil, Bool.and_true,
      canWrite_eq_isShort h]
    cases Text.Numeral.isShort (Excerpt.largest offsets) <;> rfl
  simp only [hsize, frame]
  cases p.start.offsetOr (s.startIndex.getD 0) with
  | error error => rfl
  | ok start =>
    cases p.stop.offsetOr (s.stopIndex.getD 0) with
    | error error => rfl
    | ok stop =>
      simp only [mapError_ok, bind, Except.bind]
      cases s.checkNumbers [Excerpt.largest [start, stop]] <;> rfl

/-- The gutter of a frame takes few columns. -/
theorem indent_of_frame (h : s.text.length ≤ Text.maxLength) {f : Frame} (hf : s.frame p = .ok f) :
    f.indent ≤ Text.maxLength := by
  obtain ⟨start, -, hf⟩ := bind_eq_ok_iff.mp hf
  obtain ⟨stop, -, hf⟩ := bind_eq_ok_iff.mp hf
  obtain ⟨_, hchecked, hf⟩ := bind_eq_ok_iff.mp hf
  obtain ⟨region, -, hf⟩ := bind_eq_ok_iff.mp hf
  obtain rfl := Except.ok.inj hf
  have hshort : Text.Numeral.isShort (Excerpt.largest [start, stop]) = true := by
    rw [← canWrite_eq_isShort h]
    rw [checkNumbers_eq] at hchecked
    split at hchecked
    · next hwrites => exact hwrites _ List.mem_cons_self
    · cases hchecked
  have hdigits := Text.Numeral.isShort_iff.mp hshort
  have hlimit : Text.Numeral.maxDigits < Text.maxLength := by decide +kernel
  have hfour : 4 ≤ Text.maxLength := by decide +kernel
  exact Nat.max_le.mpr ⟨by omega, hfour⟩

theorem render_eq_parts (h : s.text.length ≤ Text.maxLength) (color : Bool) :
    s.render p color = (do
      let f ← s.frame p
      let location ← (Excerpt.location f.indent s.file s.startLine s.startIndex).mapError .tooLarge
      let caption ← (Excerpt.caption f.indent s.caption color).mapError .tooLarge
      let excerpt ← (Excerpt.render s.text f.start f.stop f.indent s.emphasis s.file color).mapError
        .tooLarge
      return location ++ caption ++ excerpt) := by
  rw [render]
  cases hf : s.frame p with
  | error fault => rfl
  | ok f =>
    have hmost := indent_of_frame h hf
    have hwidth : (f.indent : Int) - 2 ≤ Text.maxLength := by omega
    simp only [bind, Except.bind, Excerpt.location_eq hmost, Excerpt.caption_eq hmost,
      Excerpt.render_of_le hwidth, checkNumbers_eq_forM h]
    cases (s.startLine.toList ++ s.startIndex.toList).forM Text.checkNumber <;> rfl

end Snippet

end Pinpoint

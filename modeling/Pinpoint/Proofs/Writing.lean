import Pinpoint.Proofs.Refusal

/-!
# What comes of a snippet

A snippet that the table of refusals passes over is drawn, with one exception: it has to
write numbers, in its messages, its location and to count the columns of its gutter, and a
number beyond the text may be too large for that. Offsets in the text and numbers of its
lines never are. So every way in which a build can end is a matter of the table and of the
numbers that are given.
-/

namespace Pinpoint.Snippet

variable {s : Snippet}

theorem canWrite_iff {n : Int} :
    s.canWrite n = true ↔ (0 ≤ n ∧ n ≤ s.text.length) ∨ Text.Numeral.isShort n = true := by
  simp [canWrite]

theorem canWrite_within {n : Int} (hnonneg : 0 ≤ n) (hle : n ≤ s.text.length) : s.canWrite n = true :=
  canWrite_iff.mpr (Or.inl ⟨hnonneg, hle⟩)

theorem canWrite_of_hasLine {line : Int} (h : s.text.HasLine line) : s.canWrite line = true := by
  obtain ⟨o, ho⟩ := Option.isSome_iff_exists.mp (Text.lineStart?_isSome_iff.mpr h)
  obtain ⟨hpos, hbegins⟩ := Text.lineStart?_eq_some_iff.mp ho
  have hcount : (s.text.take o).count '\n' ≤ (s.text.take o).length := List.count_le_length
  rw [hbegins.newlines, List.length_take] at hcount
  have hin := hbegins.inside
  exact canWrite_within (by omega) (by omega)

/-- Where a line begins can be written if the fallback can. -/
theorem canWrite_offsetOfLine {line : Option Int} {fallback : Int} (h : s.canWrite fallback = true) :
    s.canWrite (offsetOfLine s.text line fallback) = true := by
  unfold offsetOfLine
  split
  · next o ho =>
    obtain ⟨n, -, hn⟩ := Option.bind_eq_some_iff.mp ho
    have hin := (Text.lineStart?_eq_some_iff.mp hn).2.inside
    exact canWrite_within (Int.natCast_nonneg o) (by omega)
  · exact h

theorem canWrite_zero (s : Snippet) : s.canWrite 0 = true :=
  canWrite_within (Int.le_refl 0) (Int.natCast_nonneg _)

theorem canWrite_getD {index : Option Int} (h : ∀ i ∈ index, s.canWrite i = true) :
    s.canWrite (index.getD 0) = true := by
  cases index with
  | none => exact s.canWrite_zero
  | some i => exact h i rfl

/-- All of the numbers can be written. -/
def Writes (s : Snippet) (numbers : List Int) : Prop :=
  ∀ n ∈ numbers, s.canWrite n = true

instance (s : Snippet) (numbers : List Int) : Decidable (s.Writes numbers) :=
  inferInstanceAs (Decidable (∀ n ∈ numbers, s.canWrite n = true))

theorem canWrite_largest {offsets : List Int} (h : s.Writes offsets) :
    s.canWrite (Excerpt.largest offsets) = true := by
  unfold Excerpt.largest
  cases hmax : offsets.max? with
  | none => exact s.canWrite_zero
  | some greatest => exact h greatest (List.max?_eq_some_iff.mp hmax).1

theorem writes_append_iff {numbers more : List Int} :
    s.Writes (numbers ++ more) ↔ s.Writes numbers ∧ s.Writes more :=
  List.forall_mem_append

theorem checkNumbers_eq (s : Snippet) (numbers : List Int) :
    s.checkNumbers numbers = if s.Writes numbers then .ok () else .error (.tooLarge .numeral) := by
  by_cases h : s.Writes numbers
  · rw [if_pos h, checkNumbers, if_pos (List.all_eq_true.mpr h)]
  · rw [if_neg h, checkNumbers, if_neg fun hall => h (List.all_eq_true.mp hall)]

/-- The numbers that drawing the snippet depends on: the offset that the gutter is made for,
and what the location shows. -/
def drawnNumbers (s : Snippet) : List Int :=
  [Excerpt.largest s.gutterOffsets] ++ (s.startLine.toList ++ s.startIndex.toList)

/-- Why the snippet is not built, if anything. -/
def fault? (s : Snippet) : Option Fault :=
  match s.refusal? with
  | some error => if s.Writes error.numbers then some (.refused error) else some (.tooLarge .numeral)
  | none => if s.Writes s.drawnNumbers then none else some (.tooLarge .numeral)

theorem render_resolve (s : Snippet) (color : Bool) :
    s.render s.resolve color =
      if s.Writes s.drawnNumbers then .ok (s.draw s.ownFrame color)
      else .error (.tooLarge .numeral) := by
  rw [render, frame_resolve, drawnNumbers, checkNumbers_eq, checkNumbers_eq]
  by_cases hgutter : s.Writes [Excerpt.largest s.gutterOffsets]
  · by_cases hlocation : s.Writes (s.startLine.toList ++ s.startIndex.toList)
    · rw [if_pos hgutter, if_pos hlocation, if_pos (writes_append_iff.mpr ⟨hgutter, hlocation⟩)]
      rfl
    · rw [if_pos hgutter, if_neg hlocation, if_neg fun h => hlocation (writes_append_iff.mp h).2]
      rfl
  · rw [if_neg hgutter, if_neg fun h => hgutter (writes_append_iff.mp h).1]
    rfl

/-- A snippet is drawn as soon as nothing is at fault. -/
theorem build_eq (s : Snippet) (color : Bool) :
    s.build color =
      match s.fault? with
      | some fault => .error fault
      | none => .ok (s.draw s.ownFrame color) := by
  rw [build, validate_resolve, render_resolve, fault?]
  cases s.refusal? with
  | some error =>
    simp only [refuse, checkNumbers_eq]
    split <;> rfl
  | none =>
    simp only
    split <;> rfl

theorem build_eq_ok_iff {color : Bool} {out : Text} :
    s.build color = .ok out ↔ s.fault? = none ∧ s.draw s.ownFrame color = out := by
  rw [build_eq]
  cases s.fault? <;> simp

theorem build_eq_error_iff {color : Bool} {fault : Fault} :
    s.build color = .error fault ↔ s.fault? = some fault := by
  rw [build_eq]
  cases s.fault? <;> simp

theorem fault?_eq_none_iff : s.fault? = none ↔ s.refusal? = none ∧ s.Writes s.drawnNumbers := by
  rw [fault?]
  cases s.refusal? with
  | some error => by_cases h : s.Writes error.numbers <;> simp [h]
  | none => by_cases h : s.Writes s.drawnNumbers <;> simp [h]

theorem fault?_eq_refused_iff {error : Error} :
    s.fault? = some (.refused error) ↔ s.refusal? = some error ∧ s.Writes error.numbers := by
  rw [fault?]
  cases s.refusal? with
  | some other =>
    by_cases h : s.Writes other.numbers
    · simp only [h, ↓reduceIte, Option.some.injEq, Fault.refused.injEq, iff_self_and]
      rintro rfl
      exact h
    · simp only [h, ↓reduceIte, Option.some.injEq, reduceCtorEq, false_iff, not_and]
      rintro rfl
      exact h
  | none => by_cases h : s.Writes s.drawnNumbers <;> simp [h]

/-- Whatever is drawn has a frame. -/
theorem frame_of_drawn (h : s.fault? = none) : s.frame s.resolve = .ok s.ownFrame := by
  obtain ⟨-, hwrites⟩ := fault?_eq_none_iff.mp h
  rw [frame_resolve, checkNumbers_eq, if_pos (writes_append_iff.mp hwrites).1]
  rfl

/-- No build reads a position too early. -/
theorem fault?_ne_read (s : Snippet) (error : ReadError) : s.fault? ≠ some (.read error) := by
  rw [fault?]
  cases s.refusal? with
  | some refused => by_cases h : s.Writes refused.numbers <;> simp [h]
  | none => by_cases h : s.Writes s.drawnNumbers <;> simp [h]

/-- All numbers that the snippet is given. -/
def givenNumbers (s : Snippet) : List Int :=
  s.startLine.toList ++ s.stopLine.toList ++ (s.startIndex.toList ++ s.stopIndex.toList)

/-- Once it is not refused, the indexes decide whether a snippet is drawn. -/
theorem writes_drawnNumbers (hdrawn : s.refusal? = none)
    (hindexes : s.Writes (s.startIndex.toList ++ s.stopIndex.toList)) : s.Writes s.drawnNumbers := by
  obtain ⟨-, hline, -⟩ := refusal?_eq_none_iff.mp hdrawn
  obtain ⟨hstart, hstop⟩ := writes_append_iff.mp hindexes
  have hindex {index : Option Int} (h : s.Writes index.toList) : ∀ i ∈ index, s.canWrite i = true :=
    fun i hi => h i (Option.mem_toList.mpr hi)
  have hfirst : s.canWrite (offsetOfLine s.text s.startLine (s.startIndex.getD 0)) = true :=
    canWrite_offsetOfLine (canWrite_getD (hindex hstart))
  have hlast : s.canWrite (offsetOfLine s.text s.stopLine (s.stopIndex.getD 0)) = true :=
    canWrite_offsetOfLine (canWrite_getD (hindex hstop))
  refine writes_append_iff.mpr ⟨?_, writes_append_iff.mpr ⟨?_, hstart⟩⟩
  · have hoffsets : s.Writes s.gutterOffsets := by simp [Writes, gutterOffsets, hfirst, hlast]
    simpa [Writes] using canWrite_largest hoffsets
  · intro line hmem
    exact canWrite_of_hasLine (hline line (Option.mem_toList.mp hmem))

/-- The message of a refusal shows lines that were given. -/
theorem writes_refusal {error : Error} (hrefused : s.refusal? = some error)
    (hlines : s.Writes (s.startLine.toList ++ s.stopLine.toList)) : s.Writes error.numbers := by
  obtain ⟨hstart, hstop⟩ := writes_append_iff.mp hlines
  have hline {line : Option Int} {report : Int → Error} (hnumbers : ∀ n, (report n).numbers = [n])
      (hwrites : s.Writes line.toList) (h : line.map report = some error) : s.Writes error.numbers := by
    obtain ⟨n, rfl, rfl⟩ := Option.map_eq_some_iff.mp h
    rw [hnumbers]
    exact hwrites
  unfold refusal? at hrefused
  split at hrefused
  · cases hrefused
    exact List.forall_mem_nil _
  split at hrefused
  · exact hline (fun _ => rfl) hstart hrefused
  split at hrefused
  · cases hrefused
    exact List.forall_mem_nil _
  split at hrefused
  · exact hline (fun _ => rfl) hstop hrefused
  split at hrefused
  · cases hrefused
    exact writes_append_iff.mpr ⟨hstop, hstart⟩
  · cases hrefused

/-- As long as all numbers that it is given can be written, the table alone decides. -/
theorem fault?_of_writes (h : s.Writes s.givenNumbers) : s.fault? = s.refusal?.map .refused := by
  obtain ⟨hlines, hindexes⟩ := writes_append_iff.mp h
  cases hrefusal : s.refusal? with
  | some error => exact fault?_eq_refused_iff.mpr ⟨hrefusal, writes_refusal hrefusal hlines⟩
  | none => exact fault?_eq_none_iff.mpr ⟨hrefusal, writes_drawnNumbers hrefusal hindexes⟩

/-- Lines that a snippet is not refused for can always be written. -/
theorem fault?_of_lines (hdrawn : s.refusal? = none) (hstart : s.startIndex = none)
    (hstop : s.stopIndex = none) : s.fault? = none :=
  fault?_eq_none_iff.mpr ⟨hdrawn, writes_drawnNumbers hdrawn (by simp [Writes, hstart, hstop])⟩

/-- An index of 4301 digits makes the gutter too wide to be counted. -/
example : ({ text := ['a'], startIndex := some (Nat.pow 10 4300), stopIndex := some 0 } : Snippet).fault? =
    some (.tooLarge .numeral) := by
  decide +kernel

end Pinpoint.Snippet

/-!
# Texts and positions

A text is the list of its characters, and a position in it is an integer: a
negative position counts back from the end. Every position is first brought to
a cut between `0` and the length, so that slicing is total. Nothing here knows
about lines.
-/

namespace Pinpoint

abbrev Text := List Char

namespace Text

/-- The cut that a position names in a text of length `n`. -/
def cut (n : Nat) (position : Int) : Nat :=
  if position < 0 then (position + n).toNat else min position.toNat n

theorem cut_le (n : Nat) (position : Int) : cut n position ≤ n := by
  unfold cut
  split <;> omega

/-- A cut that is already inside the text stays where it is. -/
theorem cut_ofNat {n k : Nat} (h : k ≤ n) : cut n k = k := by
  unfold cut
  split <;> omega

def slice (t : Text) (start stop : Int) : Text :=
  (t.take (cut t.length stop)).drop (cut t.length start)

/-- The text without the run of `c` at its end. -/
def trimEnd (c : Char) (t : Text) : Text :=
  (t.reverse.dropWhile (· == c)).reverse

theorem mem_of_mem_trimEnd {c d : Char} {t : Text} (h : d ∈ trimEnd c t) : d ∈ t := by
  rw [trimEnd, List.mem_reverse] at h
  exact List.mem_reverse.mp ((List.dropWhile_sublist _).mem h)

/-- Trimming takes nothing but a run of the character from the end. -/
theorem exists_trimEnd_append (c : Char) (t : Text) :
    ∃ k, t = trimEnd c t ++ List.replicate k c := by
  have hrun : t.reverse.takeWhile (· == c) =
      List.replicate (t.reverse.takeWhile (· == c)).length c := by
    apply List.eq_replicate_of_mem
    intro d hd
    have hall : (t.reverse.takeWhile (· == c)).all (· == c) = true := List.all_takeWhile
    simpa using List.all_eq_true.mp hall d hd
  refine ⟨(t.reverse.takeWhile (· == c)).length, ?_⟩
  calc t = (t.reverse.takeWhile (· == c) ++ t.reverse.dropWhile (· == c)).reverse := by
        rw [List.takeWhile_append_dropWhile, List.reverse_reverse]
    _ = trimEnd c t ++ (t.reverse.takeWhile (· == c)).reverse := List.reverse_append
    _ = trimEnd c t ++ List.replicate (t.reverse.takeWhile (· == c)).length c := by
        rw [← List.reverse_replicate, ← hrun]

theorem trimEnd_concat_self (c : Char) (t : Text) : trimEnd c (t ++ [c]) = trimEnd c t := by
  simp [trimEnd]

theorem trimEnd_of_getLast? {c : Char} {t : Text} (h : t.getLast? ≠ some c) : trimEnd c t = t := by
  rw [← List.head?_reverse] at h
  rw [trimEnd]
  cases hr : t.reverse with
  | nil =>
    obtain rfl := List.reverse_eq_nil_iff.mp hr
    rfl
  | cons d rest =>
    rw [hr, List.head?_cons, ne_eq, Option.some.injEq] at h
    rw [List.dropWhile_cons_of_neg (by simpa using h), ← hr, List.reverse_reverse]

theorem getLast?_trimEnd (c : Char) (t : Text) : (trimEnd c t).getLast? ≠ some c := by
  intro h
  have hhead := List.head?_dropWhile_not (· == c) t.reverse
  rw [trimEnd, List.getLast?_reverse] at h
  simp [h] at hhead

def blanks (n : Nat) : Text :=
  List.replicate n ' '

/-- Right-aligned in `width` columns; a longer text is kept whole. Whether a width is
too large is checked before, where the width is chosen. -/
def alignRight (width : Nat) (t : Text) : Text :=
  blanks (width - t.length) ++ t

theorem length_alignRight (width : Nat) (t : Text) :
    (alignRight width t).length = max width t.length := by
  simp only [alignRight, blanks, List.length_append, List.length_replicate]
  omega

/-- The fields between the separators, so always one more than there are separators. -/
def fields (separator : Char) : Text → List Text
  | [] => [[]]
  | c :: rest =>
    if c = separator then [] :: fields separator rest
    else match fields separator rest with
      | field :: more => (c :: field) :: more
      | [] => [[c]]

theorem fields_ne_nil (separator : Char) (t : Text) : fields separator t ≠ [] := by
  cases t with
  | nil => simp [fields]
  | cons c rest =>
    simp only [fields]
    split
    · simp
    · split <;> simp

theorem length_fields (separator : Char) (t : Text) :
    (fields separator t).length = t.count separator + 1 := by
  induction t with
  | nil => rfl
  | cons c rest ih =>
    by_cases h : c = separator
    · simp [fields, h, ih]
    · have hne := fields_ne_nil separator rest
      simp only [fields, h, ↓reduceIte]
      split
      · next field more heq => simp [heq] at ih; simp [h, ih]
      · next heq => exact absurd heq hne

end Text

end Pinpoint

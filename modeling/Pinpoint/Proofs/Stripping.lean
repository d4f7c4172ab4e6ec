import Mathlib.Data.List.Infix
import Pinpoint.Text.Ansi

/-!
# Where control sequences may be cut

`IsSequence` is the grammar of control sequences, and removal takes the leftmost
of them at each step.

Removing control sequences does not distribute over concatenation, because a
sequence may begin in one text and end in the next. `Settled` says that none
does. An introducer and a newline stop every sequence that is still open, and
these two stand at almost all borders of a painted text.
-/

namespace Pinpoint.Text.Ansi

/-- The character that begins every control sequence. -/
def escape : Char := '\x1b'

/-- No sequence goes on with this character. -/
def Stops (c : Char) : Prop :=
  isParameter c = false ∧ isIntermediate c = false ∧ isFinal c = false

theorem stops_newline : Stops '\n' := ⟨by decide, by decide, by decide⟩

theorem stops_escape : Stops escape := ⟨by decide, by decide, by decide⟩

/-- No control sequence that begins in the first text goes on into the second. -/
def Settled (t more : Text) : Prop :=
  ∀ s, s ≠ [] → s <:+ t → sequenceLength? (s ++ more) = sequenceLength? s

theorem tailLength?_stops {c : Char} (hc : Stops c) (t more : Text) :
    tailLength? (t ++ c :: more) = tailLength? t := by
  induction t with
  | nil => simp [tailLength?, hc.2.1, hc.2.2]
  | cons d t ih => simp only [List.cons_append, tailLength?, ih]

theorem bodyLength?_stops {c : Char} (hc : Stops c) (t more : Text) :
    bodyLength? (t ++ c :: more) = bodyLength? t := by
  induction t with
  | nil => simp [bodyLength?, hc.1, tailLength?, hc.2.1, hc.2.2]
  | cons d t ih =>
    simp only [List.cons_append, bodyLength?, ih]
    rw [← List.cons_append, tailLength?_stops hc]

theorem sequenceLength?_of_ne {c : Char} (hc : c ≠ escape) (t : Text) :
    sequenceLength? (c :: t) = none := by
  unfold sequenceLength?
  split
  · next heq => exact absurd (List.cons.inj heq).1 hc
  · rfl

theorem sequenceLength?_escape (c : Char) (t : Text) :
    sequenceLength? (escape :: c :: t) = if c = '[' then (bodyLength? t).map (· + 2) else none := by
  by_cases hc : c = '['
  · simp [hc, escape, sequenceLength?]
  · unfold sequenceLength?
    split
    · next heq => exact absurd (List.cons.inj (List.cons.inj heq).2).1 hc
    · rw [if_neg hc]

/-- An introducer, parameter bytes, intermediate bytes and one final byte. -/
def IsSequence (s : Text) : Prop :=
  ∃ parameters intermediates final,
    s = escape :: '[' :: (parameters ++ (intermediates ++ [final])) ∧
    (∀ c ∈ parameters, isParameter c) ∧ (∀ c ∈ intermediates, isIntermediate c) ∧ isFinal final

theorem not_isIntermediate_of_isFinal {c : Char} (h : isFinal c) : isIntermediate c = false := by
  simp only [isFinal, isIntermediate, Bool.and_eq_true, decide_eq_true_eq, Bool.and_eq_false_iff,
    decide_eq_false_iff_not] at h ⊢
  right
  intro hle
  exact absurd (Char.le_trans h.1 hle) (by decide)

/-- No intermediate and no final byte is a parameter byte. -/
theorem not_isParameter_of_tail {c : Char} (h : isIntermediate c ∨ isFinal c) :
    isParameter c = false := by
  simp only [isFinal, isIntermediate, isParameter, Bool.and_eq_true, decide_eq_true_eq,
    Bool.and_eq_false_iff, decide_eq_false_iff_not] at h ⊢
  rcases h with h | h
  · exact Or.inl fun hle => absurd (Char.le_trans hle h.2) (by decide)
  · exact Or.inr fun hle => absurd (Char.le_trans h.1 hle) (by decide)

theorem tailLength?_eq_some_iff {t : Text} {n : Nat} :
    tailLength? t = some n ↔ ∃ intermediates final more, t = intermediates ++ final :: more ∧
      n = intermediates.length + 1 ∧ (∀ c ∈ intermediates, isIntermediate c) ∧ isFinal final := by
  constructor
  · intro h
    induction t generalizing n with
    | nil => simp [tailLength?] at h
    | cons c t ih =>
      simp only [tailLength?] at h
      split at h
      · next hc =>
        obtain ⟨m, hm, rfl⟩ := Option.map_eq_some_iff.mp h
        obtain ⟨intermediates, final, more, rfl, rfl, hall, hfinal⟩ := ih hm
        exact ⟨c :: intermediates, final, more, rfl, rfl, by simpa [hc] using hall, hfinal⟩
      · split at h
        · next hc => exact ⟨[], c, t, rfl, (Option.some.inj h).symm, by simp, hc⟩
        · cases h
  · rintro ⟨intermediates, final, more, rfl, rfl, hall, hfinal⟩
    induction intermediates with
    | nil => simp [tailLength?, not_isIntermediate_of_isFinal hfinal, hfinal]
    | cons c intermediates ih =>
      have hmore := ih fun d hd => hall d (List.mem_cons_of_mem _ hd)
      rw [List.cons_append, tailLength?, if_pos (hall c List.mem_cons_self), hmore]
      rfl

theorem bodyLength?_eq_some_iff {t : Text} {n : Nat} :
    bodyLength? t = some n ↔ ∃ parameters rest m, t = parameters ++ rest ∧
      n = parameters.length + m ∧ (∀ c ∈ parameters, isParameter c) ∧
      tailLength? rest = some m := by
  constructor
  · intro h
    induction t generalizing n with
    | nil => simp [bodyLength?] at h
    | cons c t ih =>
      simp only [bodyLength?] at h
      split at h
      · next hc =>
        obtain ⟨k, hk, rfl⟩ := Option.map_eq_some_iff.mp h
        obtain ⟨parameters, rest, m, rfl, rfl, hall, htail⟩ := ih hk
        refine ⟨c :: parameters, rest, m, rfl, ?_, by simpa [hc] using hall, htail⟩
        rw [List.length_cons]
        omega
      · exact ⟨[], c :: t, n, rfl, by simp, by simp, h⟩
  · rintro ⟨parameters, rest, m, rfl, rfl, hall, htail⟩
    induction parameters with
    | nil =>
      cases rest with
      | nil => simp [tailLength?] at htail
      | cons c rest =>
        have hc : isParameter c = false := by
          obtain ⟨intermediates, final, more, heq, -, hmid, hfinal⟩ :=
            tailLength?_eq_some_iff.mp htail
          apply not_isParameter_of_tail
          cases intermediates with
          | nil => exact Or.inr ((List.cons.inj heq).1 ▸ hfinal)
          | cons d _ => exact Or.inl ((List.cons.inj heq).1 ▸ hmid d List.mem_cons_self)
        simp [bodyLength?, hc, htail]
    | cons c parameters ih =>
      have hmore := ih fun d hd => hall d (List.mem_cons_of_mem _ hd)
      rw [List.cons_append, bodyLength?, if_pos (hall c List.mem_cons_self), hmore,
        Option.map_some, List.length_cons, Nat.add_right_comm]

/-- The recognizer finds the sequence at the front of a text and nothing else. -/
theorem sequenceLength?_eq_some_iff {t : Text} {n : Nat} :
    sequenceLength? t = some n ↔ ∃ s more, t = s ++ more ∧ n = s.length ∧ IsSequence s := by
  constructor
  · intro h
    unfold sequenceLength? at h
    split at h
    · next body =>
      obtain ⟨k, hk, rfl⟩ := Option.map_eq_some_iff.mp h
      obtain ⟨parameters, rest, m, rfl, rfl, hparameters, htail⟩ := bodyLength?_eq_some_iff.mp hk
      obtain ⟨intermediates, final, more, rfl, rfl, hmid, hfinal⟩ :=
        tailLength?_eq_some_iff.mp htail
      refine ⟨escape :: '[' :: (parameters ++ (intermediates ++ [final])), more, ?_, ?_, ?_⟩
      · simp [escape]
      · simp
      · exact ⟨parameters, intermediates, final, rfl, hparameters, hmid, hfinal⟩
    · cases h
  · rintro ⟨s, more, rfl, rfl, parameters, intermediates, final, rfl, hparameters, hmid, hfinal⟩
    have htail : tailLength? (intermediates ++ final :: more) = some (intermediates.length + 1) :=
      tailLength?_eq_some_iff.mpr ⟨intermediates, final, more, rfl, rfl, hmid, hfinal⟩
    have hbody := bodyLength?_eq_some_iff.mpr
      ⟨parameters, intermediates ++ final :: more, _, rfl, rfl, hparameters, htail⟩
    rw [List.cons_append, List.cons_append, sequenceLength?_escape, if_pos rfl]
    simp only [List.append_assoc, List.nil_append, List.cons_append, hbody]
    simp

theorem sequenceLength?_le {t : Text} {n : Nat} (h : sequenceLength? t = some n) :
    n ≤ t.length := by
  obtain ⟨s, more, rfl, rfl, -⟩ := sequenceLength?_eq_some_iff.mp h
  rw [List.length_append]
  exact Nat.le_add_right _ _

theorem Settled.tail {c : Char} {t more : Text} (h : Settled (c :: t) more) : Settled t more :=
  fun s hs hsuffix => h s hs (hsuffix.trans (List.suffix_cons c t))

theorem settled_nil (t : Text) : Settled t [] := by
  intro s _ _
  rw [List.append_nil]

/-- A border can only be crossed between an introducer and its bracket, or behind
both. -/
theorem settled_of_body {t more : Text} (hlast : t.getLast? = some escape → more.head? ≠ some '[')
    (hbody : ∀ u, escape :: '[' :: u <:+ t → bodyLength? (u ++ more) = bodyLength? u) :
    Settled t more := by
  intro s hs hsuffix
  match s with
  | c :: s =>
    by_cases hc : c = escape
    · subst hc
      match s with
      | [] =>
        have hend : t.getLast? = some escape := by
          obtain ⟨front, rfl⟩ := hsuffix
          exact List.getLast?_concat
        cases more with
        | nil => rfl
        | cons d more =>
          have hd : d ≠ '[' := by simpa using hlast hend
          rw [List.cons_append, List.nil_append, sequenceLength?_escape, if_neg hd]
          rfl
      | d :: s =>
        rw [List.cons_append, List.cons_append, sequenceLength?_escape, sequenceLength?_escape]
        split
        · next hd =>
          subst hd
          rw [hbody s hsuffix]
        · rfl
    · rw [List.cons_append, sequenceLength?_of_ne hc, sequenceLength?_of_ne hc]

theorem settled_of_stops {c : Char} (hc : Stops c) (t more : Text) : Settled t (c :: more) := by
  apply settled_of_body
  · rintro - hbracket
    obtain rfl : c = '[' := by simpa using hbracket
    exact absurd hc.2.2 (by decide)
  · exact fun u _ => bodyLength?_stops hc u more

/-- A text without introducer has nothing to be continued. -/
theorem settled_of_notMem {t : Text} (ht : escape ∉ t) (more : Text) : Settled t more := by
  apply settled_of_body
  · exact fun hlast => absurd (List.mem_of_getLast? hlast) ht
  · exact fun u hsuffix => absurd (hsuffix.mem List.mem_cons_self) ht

theorem tailLength?_intermediate {c : Char} (hc : isIntermediate c = true) {more : Text}
    (hmore : tailLength? more = none) (t : Text) :
    tailLength? (t ++ c :: more) = tailLength? (t ++ [c]) := by
  induction t with
  | nil => simp [tailLength?, hc, hmore]
  | cons d t ih => simp only [List.cons_append, tailLength?, ih]

theorem bodyLength?_intermediate {c : Char} (hc : isIntermediate c = true) {more : Text}
    (hmore : tailLength? more = none) (t : Text) :
    bodyLength? (t ++ c :: more) = bodyLength? (t ++ [c]) := by
  induction t with
  | nil => simp [bodyLength?, not_isParameter_of_tail (Or.inl hc), tailLength?, hc, hmore]
  | cons d t ih =>
    simp only [List.cons_append, bodyLength?, ih]
    rw [← List.cons_append, tailLength?_intermediate hc hmore, List.cons_append]

/-- Behind an intermediate byte only more of them and a final byte can end a
sequence. -/
theorem settled_of_intermediate {c : Char} (hc : isIntermediate c = true) {more : Text}
    (hmore : tailLength? more = none) (t : Text) : Settled (t ++ [c]) more := by
  apply settled_of_body
  · intro hlast
    obtain rfl : c = escape := by simpa using hlast
    exact absurd hc (by decide)
  · intro u hsuffix
    obtain ⟨front, hfront⟩ := hsuffix
    rcases List.eq_nil_or_concat u with rfl | ⟨v, d, rfl⟩
    · have hbracket := congrArg List.getLast? hfront
      obtain rfl : '[' = c := by simpa using hbracket
      exact absurd hc (by decide)
    · have hends : front ++ escape :: '[' :: v ++ [d] = t ++ [c] := by simpa using hfront
      obtain rfl : d = c := by simpa using (List.append_inj' hends rfl).2
      rw [List.concat_eq_append, List.append_assoc, List.singleton_append,
        bodyLength?_intermediate hc hmore]

theorem stripFrom_append_self (s more : Text) : stripFrom s.length (s ++ more) = strip more := by
  induction s with
  | nil => rfl
  | cons c s ih => exact ih

/-- A sequence at the front is removed whole. -/
theorem strip_sequence_append {s : Text} (h : IsSequence s) (more : Text) :
    strip (s ++ more) = strip more := by
  have hlength := sequenceLength?_eq_some_iff.mpr ⟨s, more, rfl, rfl, h⟩
  obtain ⟨parameters, intermediates, final, rfl, -⟩ := h
  rw [List.cons_append] at hlength ⊢
  rw [strip, stripFrom, hlength]
  exact stripFrom_append_self _ more

/-- A character that begins no sequence stays. -/
theorem strip_cons_of_no_sequence {c : Char} {t : Text} (h : ∀ s, s <+: c :: t → ¬ IsSequence s) :
    strip (c :: t) = c :: strip t := by
  have hnone : sequenceLength? (c :: t) = none := by
    rw [Option.eq_none_iff_forall_ne_some]
    intro n hn
    obtain ⟨s, more, heq, -, hs⟩ := sequenceLength?_eq_some_iff.mp hn
    exact h s ⟨more, heq.symm⟩ hs
  rw [strip, stripFrom, hnone]
  rfl

theorem stripFrom_append {t more : Text} (h : Settled t more) {skip : Nat}
    (hskip : skip ≤ t.length) : stripFrom skip (t ++ more) = stripFrom skip t ++ strip more := by
  induction t generalizing skip with
  | nil =>
    rw [Nat.le_zero.mp hskip]
    rfl
  | cons c t ih =>
    cases skip with
    | succ skip => exact ih h.tail (Nat.le_of_succ_le_succ hskip)
    | zero =>
      have hsame := h (c :: t) (List.cons_ne_nil c t) (List.suffix_refl _)
      rw [List.cons_append] at hsame
      rw [List.cons_append, stripFrom, stripFrom, hsame]
      split
      · next n hn =>
        have hle := sequenceLength?_le hn
        exact ih h.tail (by simp at hle; omega)
      · rw [ih h.tail (Nat.zero_le _), List.cons_append]

theorem strip_append {t more : Text} (h : Settled t more) :
    strip (t ++ more) = strip t ++ strip more :=
  stripFrom_append h (Nat.zero_le _)

theorem strip_of_notMem {t : Text} (ht : escape ∉ t) : strip t = t := by
  induction t with
  | nil => rfl
  | cons c t ih =>
    simp only [List.mem_cons, not_or] at ht
    rw [strip, stripFrom, sequenceLength?_of_ne (Ne.symm ht.1)]
    exact congrArg _ (ih ht.2)

theorem strip_notMem_append {t : Text} (ht : escape ∉ t) (more : Text) :
    strip (t ++ more) = t ++ strip more := by
  rw [strip_append (settled_of_notMem ht more), strip_of_notMem ht]

theorem strip_newline (t more : Text) :
    strip (t ++ '\n' :: more) = strip t ++ '\n' :: strip more := by
  rw [strip_append (settled_of_stops stops_newline t more)]
  exact congrArg _ (strip_notMem_append (t := ['\n']) (by decide) more)

theorem strip_intercalate {separator : Text} (hsep : escape ∉ separator) (texts : List Text) :
    strip (('\n' :: separator).intercalate texts) =
      ('\n' :: separator).intercalate (texts.map strip) := by
  induction texts with
  | nil => rfl
  | cons t more ih =>
    cases more with
    | nil => simp
    | cons u more =>
      rw [List.intercalate_cons_cons, List.append_assoc, List.cons_append, strip_newline,
        strip_notMem_append hsep, ih]
      simp

end Pinpoint.Text.Ansi

import Mathlib.Data.List.TakeDrop
import Mathlib.Data.List.Infix
import Mathlib.Data.List.TakeWhile
import Pinpoint.Text.Line

/-!
# Lines found, counted and cut apart

`BeginsLine` says what the start of a line is without searching for it. The
search finds exactly these positions, the count says how many there are, and the
pieces between the newlines are the lines that begin there. The empty piece
after a final newline begins nowhere.
-/

namespace Pinpoint.Text

/-- The text has a line of this number. -/
def HasLine (t : Text) (line : Int) : Prop :=
  1 ≤ line ∧ line ≤ t.lineCount

instance (t : Text) (line : Int) : Decidable (t.HasLine line) :=
  inferInstanceAs (Decidable (_ ∧ _))

/-- A line with `n` newlines before it begins at the offset `o`. -/
structure BeginsLine (t : Text) (n o : Nat) : Prop where
  inside : o < t.length
  newlines : (t.take o).count '\n' = n
  fresh : o = 0 ∨ t[o - 1]? = some '\n'

theorem lineCount_cons (c : Char) (rest : Text) :
    lineCount (c :: rest) =
      if rest = [] then 1 else lineCount rest + if c = '\n' then 1 else 0 := by
  cases rest with
  | nil => by_cases hc : c = '\n' <;> simp [lineCount, hc]
  | cons d more =>
    obtain ⟨e, he⟩ : ∃ e, (d :: more).getLast? = some e := ⟨_, List.getLast?_cons⟩
    simp only [lineCount, List.getLast?_cons_cons, he, List.count_cons (a := '\n') (b := c),
      beq_iff_eq]
    split
    · simp
    · simp
      omega

theorem offsetAfter_isSome_iff {t : Text} {n : Nat} :
    (offsetAfter t n).isSome ↔ n < t.lineCount := by
  induction t generalizing n with
  | nil => simp [offsetAfter, lineCount]
  | cons c rest ih =>
    cases n with
    | zero =>
      rw [lineCount_cons]
      split
      · simp [offsetAfter]
      · next hne =>
        obtain ⟨d, more, rfl⟩ := List.exists_cons_of_ne_nil hne
        have hpos : 0 < lineCount (d :: more) := ih.mp rfl
        simp [offsetAfter, Nat.add_pos_left hpos]
    | succ n =>
      rw [offsetAfter, Option.isSome_map, ih, lineCount_cons]
      by_cases hempty : rest = []
      · simp [hempty, lineCount]
      · rw [if_neg hempty]
        split <;> omega

theorem BeginsLine.newline_before {t : Text} {n o : Nat} (h : BeginsLine t n (o + 1)) :
    t[o]? = some '\n' := by
  have h' := h.fresh
  simpa using h'

theorem BeginsLine.pos {t : Text} {n o : Nat} (h : BeginsLine t n (o + 1)) : 0 < n := by
  rw [← h.newlines, List.count_pos_iff, List.mem_iff_getElem?]
  exact ⟨o, by rw [List.getElem?_take_of_lt (Nat.lt_succ_self o), h.newline_before]⟩

theorem beginsLine_zero_iff {t : Text} {o : Nat} : BeginsLine t 0 o ↔ o = 0 ∧ t ≠ [] := by
  constructor
  · intro h
    have ho : o = 0 := by
      cases o with
      | zero => rfl
      | succ o => exact absurd h.pos (Nat.lt_irrefl 0)
    subst ho
    exact ⟨rfl, List.ne_nil_of_length_pos h.inside⟩
  · rintro ⟨rfl, hne⟩
    exact ⟨List.length_pos_of_ne_nil hne, rfl, Or.inl rfl⟩

/-- Behind its first character a text has the lines of the rest. -/
theorem beginsLine_cons_succ {c : Char} {rest : Text} {n o : Nat} :
    BeginsLine (c :: rest) (n + 1) (o + 1) ↔
      BeginsLine rest (if c = '\n' then n else n + 1) o := by
  constructor
  · intro h
    have hin := h.inside
    have hnew := h.newlines
    have hfresh := h.newline_before
    refine ⟨by simpa using hin, ?_, ?_⟩
    · by_cases hc : c = '\n' <;> simpa [List.count_cons, hc] using hnew
    · cases o with
      | zero => exact Or.inl rfl
      | succ o => exact Or.inr (by simpa using hfresh)
  · intro h
    have hin := h.inside
    have hnew := h.newlines
    refine ⟨by simpa using hin, ?_, Or.inr ?_⟩
    · by_cases hc : c = '\n' <;> simpa [List.count_cons, hc] using hnew
    · cases o with
      | zero =>
        -- Nothing stands before the rest, so the one newline is the first character.
        by_cases hc : c = '\n'
        · simp [hc]
        · simp [hc] at hnew
      | succ o => simpa using h.newline_before

/-- The search finds the starts of lines and nothing else. -/
theorem offsetAfter_eq_some_iff {t : Text} {n o : Nat} :
    offsetAfter t n = some o ↔ BeginsLine t n o := by
  induction t generalizing n o with
  | nil => exact ⟨fun h => by simp [offsetAfter] at h, fun h => by simpa using h.inside⟩
  | cons c rest ih =>
    cases n with
    | zero => simp [offsetAfter, beginsLine_zero_iff, eq_comm]
    | succ n =>
      cases o with
      | zero =>
        refine ⟨fun h => by simp [offsetAfter] at h, fun h => ?_⟩
        simpa using h.newlines
      | succ o => simp [offsetAfter, ih, beginsLine_cons_succ]

theorem exists_beginsLine_iff {t : Text} {n : Nat} :
    (∃ o, BeginsLine t n o) ↔ n < t.lineCount := by
  simp only [← offsetAfter_isSome_iff, Option.isSome_iff_exists, offsetAfter_eq_some_iff]

theorem BeginsLine.unique {t : Text} {n o o' : Nat} (h : BeginsLine t n o)
    (h' : BeginsLine t n o') : o = o' := by
  rw [← offsetAfter_eq_some_iff] at h h'
  exact Option.some.inj (h.symm.trans h')

/-- Later lines begin later. -/
theorem BeginsLine.lt_of_lt {t : Text} {m n a b : Nat} (ha : BeginsLine t m a)
    (hb : BeginsLine t n b) (hmn : m < n) : a < b := by
  by_contra hle
  have hcount := ((List.take_sublist_take_left (l := t) (Nat.le_of_not_lt hle)).count_le '\n')
  rw [ha.newlines, hb.newlines] at hcount
  omega

theorem BeginsLine.le_of_le {t : Text} {m n a b : Nat} (ha : BeginsLine t m a)
    (hb : BeginsLine t n b) (hmn : m ≤ n) : a ≤ b := by
  rcases Nat.lt_or_eq_of_le hmn with hlt | rfl
  · exact Nat.le_of_lt (ha.lt_of_lt hb hlt)
  · exact Nat.le_of_eq (ha.unique hb)

theorem lineStart?_eq_some_iff {t : Text} {line : Int} {o : Nat} :
    t.lineStart? line = some o ↔ 1 ≤ line ∧ BeginsLine t (line - 1).toNat o := by
  unfold lineStart?
  split
  · simp; omega
  · rw [offsetAfter_eq_some_iff]
    simp; omega

theorem lineStart?_isSome_iff {t : Text} {line : Int} :
    (t.lineStart? line).isSome ↔ t.HasLine line := by
  unfold lineStart? HasLine
  split
  · simp; omega
  · rw [offsetAfter_isSome_iff]
    omega

theorem hasLine_of_lineStart? {t : Text} {line : Int} {o : Nat} (h : t.lineStart? line = some o) :
    t.HasLine line :=
  lineStart?_isSome_iff.mp (by rw [h]; rfl)

theorem BeginsLine.lineStart?_eq {t : Text} {n o : Nat} (h : BeginsLine t n o) :
    t.lineStart? (n + 1 : Nat) = some o := by
  rw [lineStart?_eq_some_iff]
  exact ⟨by omega, by rwa [show ((n + 1 : Nat) - 1 : Int).toNat = n by omega]⟩

/-- A text is an unfinished line, or a finished line with more text behind it. -/
@[elab_as_elim]
theorem line_induction {motive : Text → Prop}
    (unfinished : ∀ l, '\n' ∉ l → motive l)
    (finished : ∀ l rest, '\n' ∉ l → motive rest → motive (l ++ '\n' :: rest))
    (t : Text) : motive t := by
  suffices h : ∀ l, '\n' ∉ l → motive (l ++ t) from h [] List.not_mem_nil
  induction t with
  | nil =>
    intro l hl
    simpa using unfinished l hl
  | cons c rest ih =>
    intro l hl
    by_cases hc : c = '\n'
    · subst hc
      exact finished l rest hl (ih [] List.not_mem_nil)
    · rw [List.append_cons]
      exact ih (l ++ [c]) (by simp [hl, Ne.symm hc])

theorem fields_ne_cons {separator c : Char} {rest : Text} (hc : c ≠ separator) :
    fields separator (c :: rest) =
      (c :: (fields separator rest).headD []) :: (fields separator rest).tail := by
  rw [fields, if_neg hc]
  cases h : fields separator rest with
  | nil => exact absurd h (fields_ne_nil separator rest)
  | cons field more => rfl

theorem fields_of_notMem {separator : Char} {t : Text} (h : separator ∉ t) :
    fields separator t = [t] := by
  induction t with
  | nil => rfl
  | cons c rest ih =>
    simp only [List.mem_cons, not_or] at h
    rw [fields_ne_cons (Ne.symm h.1), ih h.2]
    rfl

theorem fields_append_separator {separator : Char} {t rest : Text} (h : separator ∉ t) :
    fields separator (t ++ separator :: rest) = t :: fields separator rest := by
  induction t with
  | nil => simp [fields]
  | cons c more ih =>
    simp only [List.mem_cons, not_or] at h
    rw [List.cons_append, fields_ne_cons (Ne.symm h.1), ih h.2]
    rfl

/-- A field is cut out of the text, and it holds no separator. -/
theorem mem_of_mem_fields {separator : Char} {t field : Text} (h : field ∈ fields separator t)
    {c : Char} (hc : c ∈ field) : c ∈ t ∧ c ≠ separator := by
  induction t generalizing field with
  | nil =>
    rw [fields, List.mem_singleton] at h
    exact absurd hc (h ▸ List.not_mem_nil)
  | cons d rest ih =>
    by_cases hd : d = separator
    · rw [fields, if_pos hd, List.mem_cons] at h
      rcases h with rfl | h
      · exact absurd hc List.not_mem_nil
      · exact ⟨List.mem_cons_of_mem _ (ih h hc).1, (ih h hc).2⟩
    · obtain ⟨first, more, hrest⟩ := List.exists_cons_of_ne_nil (fields_ne_nil separator rest)
      rw [fields_ne_cons hd, hrest, List.headD_cons, List.tail_cons, List.mem_cons] at h
      rw [hrest] at ih
      rcases h with rfl | h
      · rcases List.mem_cons.mp hc with rfl | hc
        · exact ⟨List.mem_cons_self, hd⟩
        · have hfirst := ih List.mem_cons_self hc
          exact ⟨List.mem_cons_of_mem _ hfirst.1, hfirst.2⟩
      · have hmore := ih (List.mem_cons_of_mem _ h) hc
        exact ⟨List.mem_cons_of_mem _ hmore.1, hmore.2⟩

theorem lines_unfinished {l : Text} (hl : '\n' ∉ l) : lines l = [l] :=
  fields_of_notMem hl

theorem lines_finished {l rest : Text} (hl : '\n' ∉ l) :
    lines (l ++ '\n' :: rest) = l :: lines rest :=
  fields_append_separator hl

theorem count_take_within {l rest : Text} (hl : '\n' ∉ l) {i : Nat} (hi : i ≤ l.length) :
    ((l ++ '\n' :: rest).take i).count '\n' = 0 := by
  rw [List.take_append_of_le_length hi]
  exact List.count_eq_zero.mpr fun h => hl (List.mem_of_mem_take h)

theorem count_take_behind {l rest : Text} (hl : '\n' ∉ l) (i : Nat) :
    ((l ++ '\n' :: rest).take (l.length + 1 + i)).count '\n' = (rest.take i).count '\n' + 1 := by
  rw [Nat.add_assoc, List.take_length_add_append, Nat.add_comm 1 i, List.take_succ_cons,
    List.count_append, List.count_cons_self, List.count_eq_zero.mpr hl, Nat.zero_add]

theorem getElem?_behind (l rest : Text) (i : Nat) :
    (l ++ '\n' :: rest)[l.length + 1 + i]? = rest[i]? := by
  rw [List.getElem?_append_right (by omega),
    show l.length + 1 + i - l.length = i + 1 by omega, List.getElem?_cons_succ]

theorem newline_notMem_of_mem_lines {t l : Text} (h : l ∈ t.lines) : '\n' ∉ l :=
  fun hnew => (mem_of_mem_fields h hnew).2 rfl

theorem mem_of_mem_lines {t l : Text} (h : l ∈ t.lines) {c : Char} (hc : c ∈ l) : c ∈ t :=
  (mem_of_mem_fields h hc).1

theorem takeWhile_unfinished {l : Text} (hl : '\n' ∉ l) : l.takeWhile (· ≠ '\n') = l := by
  rw [List.takeWhile_eq_self_iff]
  intro c hc
  simpa using fun h : c = '\n' => hl (h ▸ hc)

theorem takeWhile_finished {l rest : Text} (hl : '\n' ∉ l) :
    (l ++ '\n' :: rest).takeWhile (· ≠ '\n') = l := by
  rw [List.takeWhile_append, takeWhile_unfinished hl]
  simp

theorem head?_lines (t : Text) : t.lines.head? = some (t.takeWhile (· ≠ '\n')) := by
  induction t using line_induction with
  | unfinished l hl => rw [lines_unfinished hl, takeWhile_unfinished hl]; rfl
  | finished l rest hl _ => rw [lines_finished hl, takeWhile_finished hl]; rfl

/-- From the start of a line on, the pieces are those of the whole text without
the ones before it. This holds at the end of a finished text as well. -/
theorem lines_drop {t : Text} {o : Nat} (hle : o ≤ t.length)
    (hfresh : o = 0 ∨ t[o - 1]? = some '\n') :
    lines (t.drop o) = t.lines.drop ((t.take o).count '\n') := by
  rcases Nat.eq_zero_or_pos o with rfl | hpos
  · rfl
  have hnew : t[o - 1]? = some '\n' := hfresh.resolve_left (Nat.ne_of_gt hpos)
  induction t using line_induction generalizing o with
  | unfinished l hl => exact absurd (List.mem_of_getElem? hnew) hl
  | finished l rest hl ih =>
    have hbehind : l.length < o := by
      by_contra hwithin
      rw [List.getElem?_append_left (by omega)] at hnew
      exact hl (List.mem_of_getElem? hnew)
    obtain ⟨k, rfl⟩ := Nat.exists_eq_add_of_le (show l.length + 1 ≤ o from hbehind)
    rw [count_take_behind hl, lines_finished hl, Nat.add_assoc, List.drop_length_add_append,
      Nat.add_comm 1 k, List.drop_succ_cons, List.drop_succ_cons]
    rcases Nat.eq_zero_or_pos k with rfl | hk
    · rfl
    · have hnew' : rest[k - 1]? = some '\n' := by
        rw [← hnew, show l.length + 1 + k - 1 = l.length + 1 + (k - 1) by omega, getElem?_behind]
      exact ih (by simp at hle; omega) (Or.inr hnew') hk hnew'

/-- Lines as a text, each with a newline behind it. -/
def unlines (lines : List Text) : Text :=
  lines.flatMap (· ++ ['\n'])

theorem length_unlines_cons (l : Text) (more : List Text) :
    (unlines (l :: more)).length = l.length + 1 + (unlines more).length := by
  rw [unlines, List.flatMap_cons, List.length_append, List.length_append, List.length_singleton]
  rfl

/-- Lines that are joined by newlines, with one more at the end. -/
theorem intercalate_newline {lines : List Text} (hne : lines ≠ []) :
    ['\n'].intercalate lines ++ ['\n'] = unlines lines := by
  induction lines with
  | nil => exact absurd rfl hne
  | cons l more ih =>
    cases more with
    | nil => simp [unlines]
    | cons next more =>
      rw [List.intercalate_cons_cons, List.append_assoc, ih (List.cons_ne_nil next more)]
      rfl

/-- The pieces make up the text again, with one more newline at its end. -/
theorem unlines_lines (t : Text) : unlines t.lines = t ++ ['\n'] := by
  induction t using line_induction with
  | unfinished l hl => simp [lines_unfinished hl, unlines]
  | finished l rest hl ih =>
    rw [lines_finished hl, unlines, List.flatMap_cons, ← unlines, ih]
    simp

/-- Lines that are made a text are found again. -/
theorem lines_unlines {texts : List Text} (h : ∀ t ∈ texts, '\n' ∉ t) :
    lines (unlines texts) = texts ++ [[]] := by
  induction texts with
  | nil => rfl
  | cons t more ih =>
    have ht := h t List.mem_cons_self
    have hmore := ih fun u hu => h u (List.mem_cons_of_mem _ hu)
    rw [unlines, List.flatMap_cons, List.append_assoc, List.singleton_append, lines_finished ht,
      ← unlines, hmore]
    rfl

theorem length_unlines_lines (t : Text) : (unlines t.lines).length = t.length + 1 := by
  rw [unlines_lines, List.length_append, List.length_singleton]

/-- Offset at which the piece with `n` newlines before it begins. -/
def pieceBegin (t : Text) (n : Nat) : Nat :=
  (unlines (t.lines.take n)).length

theorem pieceBegin_succ {t line : Text} {n : Nat} (h : t.lines[n]? = some line) :
    t.pieceBegin (n + 1) = t.pieceBegin n + line.length + 1 := by
  rw [pieceBegin, pieceBegin, List.take_add_one, h, unlines, List.flatMap_append, List.length_append,
    Option.toList_some, ← unlines, ← unlines, length_unlines_cons]
  rfl

theorem pieceBegin_finished {l : Text} (hl : '\n' ∉ l) (rest : Text) (n : Nat) :
    pieceBegin (l ++ '\n' :: rest) (n + 1) = l.length + 1 + rest.pieceBegin n := by
  rw [pieceBegin, lines_finished hl, List.take_succ_cons, length_unlines_cons, pieceBegin]

/-- A position at which a piece begins is found by adding up the pieces before it. -/
theorem pieceBegin_of_fresh {t : Text} {o : Nat} (hle : o ≤ t.length)
    (hfresh : o = 0 ∨ t[o - 1]? = some '\n') : t.pieceBegin ((t.take o).count '\n') = o := by
  have htotal := t.length_unlines_lines
  have hrest := length_unlines_lines (t.drop o)
  rw [lines_drop hle hfresh, List.length_drop] at hrest
  rw [← List.take_append_drop ((t.take o).count '\n') t.lines, unlines, List.flatMap_append,
    List.length_append, ← unlines, ← unlines] at htotal
  rw [pieceBegin]
  omega

theorem lineEnd_le (t : Text) (position : Int) : t.lineEnd position ≤ t.length := by
  have hcut := cut_le t.length position
  have hfit := (List.takeWhile_prefix (l := t.drop (cut t.length position)) (· ≠ '\n')).length_le
  rw [List.length_drop] at hfit
  simp only [lineEnd]
  omega

/-- A line begins behind the last newline before the position. -/
theorem lineBegin_spec (t : Text) (position : Int) :
    ∃ before line, t.take (cut t.length position) = before ++ line ∧ '\n' ∉ line ∧
      (before = [] ∨ before.getLast? = some '\n') ∧ t.lineBegin position = before.length := by
  let p := t.take (cut t.length position)
  let isInside (c : Char) : Bool := c ≠ '\n'
  have hsplit : p =
      (p.reverse.dropWhile isInside).reverse ++ (p.reverse.takeWhile isInside).reverse := by
    rw [← List.reverse_append, List.takeWhile_append_dropWhile, List.reverse_reverse]
  refine ⟨(p.reverse.dropWhile isInside).reverse, (p.reverse.takeWhile isInside).reverse,
    hsplit, ?_, ?_, ?_⟩
  · rw [List.mem_reverse]
    intro hmem
    simpa [isInside] using List.mem_takeWhile_imp hmem
  · rw [List.getLast?_reverse, List.reverse_eq_nil_iff]
    cases hd : p.reverse.dropWhile isInside with
    | nil => exact Or.inl rfl
    | cons c rest =>
      have hne : p.reverse.dropWhile isInside ≠ [] := by simp [hd]
      have hc := List.head_dropWhile_not isInside hne
      simp only [hd, List.head_cons, isInside, decide_eq_false_iff_not, not_not] at hc
      exact Or.inr (by simp [hc])
  · have hlength := congrArg List.length hsplit
    have hp : p.length = cut t.length position := by
      rw [List.length_take, Nat.min_eq_left (cut_le _ _)]
    simp only [List.length_append, List.length_reverse, hp] at hlength
    change cut t.length position - (p.reverse.takeWhile isInside).length = _
    rw [List.length_reverse]
    omega

theorem lineBegin_le_cut (t : Text) (position : Int) :
    t.lineBegin position ≤ cut t.length position := by
  obtain ⟨before, line, htake, -, -, hbegin⟩ := t.lineBegin_spec position
  have hlength := congrArg List.length htake
  rw [List.length_take, Nat.min_eq_left (cut_le _ _), List.length_append] at hlength
  omega

theorem take_lineBegin {t before line : Text} {position : Int}
    (htake : t.take (cut t.length position) = before ++ line)
    (hbegin : t.lineBegin position = before.length) : t.take (t.lineBegin position) = before := by
  have hle := t.lineBegin_le_cut position
  rw [← Nat.min_eq_left hle, ← List.take_take, htake, hbegin, List.take_left']
  rfl

/-- The line of a position has the position's number. -/
theorem count_take_lineBegin (t : Text) (position : Int) :
    (t.take (t.lineBegin position)).count '\n' + 1 = t.lineNumberAt position := by
  obtain ⟨before, line, htake, hline, -, hbegin⟩ := t.lineBegin_spec position
  rw [take_lineBegin htake hbegin, lineNumberAt, htake, List.count_append,
    List.count_eq_zero.mpr hline, Nat.add_zero]

theorem lineBegin_fresh (t : Text) (position : Int) :
    t.lineBegin position = 0 ∨ t[t.lineBegin position - 1]? = some '\n' := by
  obtain ⟨before, line, htake, -, hlast, hbegin⟩ := t.lineBegin_spec position
  rcases hlast with rfl | hlast
  · exact Or.inl hbegin
  · have hpos : 0 < before.length := List.length_pos_of_mem (List.mem_of_getLast? hlast)
    right
    rw [← hlast, List.getLast?_eq_getElem?, ← take_lineBegin htake hbegin, List.getElem?_take_of_lt,
      take_lineBegin htake hbegin, hbegin]
    rw [take_lineBegin htake hbegin, hbegin]
    omega

theorem lineBegin_eq_pieceBegin (t : Text) (position : Int) :
    t.lineBegin position = t.pieceBegin (t.lineNumberAt position - 1) := by
  rw [← count_take_lineBegin, Nat.add_sub_cancel,
    pieceBegin_of_fresh ((t.lineBegin_le_cut position).trans (cut_le _ _)) (t.lineBegin_fresh position)]

/-- From the start of a position's line on, the pieces are those from its number on. -/
theorem lines_drop_lineBegin (t : Text) (position : Int) :
    lines (t.drop (t.lineBegin position)) = t.lines.drop (t.lineNumberAt position - 1) := by
  rw [lines_drop ((t.lineBegin_le_cut position).trans (cut_le _ _)) (t.lineBegin_fresh position),
    ← count_take_lineBegin, Nat.add_sub_cancel]

end Pinpoint.Text

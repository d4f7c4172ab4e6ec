import Pinpoint.Proofs.ShownLines
import Pinpoint.Proofs.Stripping
import Pinpoint.Snippet.Basic

/-!
# Painted rows without their control sequences

A gutter and a row of markers hold no introducer, so nothing in them continues
and nothing is continued by them. What remains of a row is therefore the row
itself, with the code part reduced on its own.
-/

namespace Pinpoint

namespace Text

open Ansi (strip escape Settled)

theorem code_eq_escape_cons (style : Style) : ∃ rest, style.code = escape :: rest := by
  cases style <;> exact ⟨_, rfl⟩

theorem strip_code_append (style : Style) (t : Text) : strip (style.code ++ t) = strip t := by
  cases style <;> rfl

/-- A style switch closes what stands before it. -/
theorem strip_append_code (t : Text) (style : Style) (more : Text) :
    strip (t ++ (style.code ++ more)) = strip t ++ strip more := by
  rw [← strip_code_append style more]
  obtain ⟨rest, hcode⟩ := code_eq_escape_cons style
  rw [hcode, List.cons_append]
  exact Ansi.strip_append (Ansi.settled_of_stops Ansi.stops_escape t _)

theorem strip_paint_append (color : Bool) (style : Style) {t more : Text} (h : Settled t more) :
    strip (paint color style t ++ more) = strip t ++ strip more := by
  unfold paint
  split
  · rw [List.append_assoc, List.append_assoc, strip_code_append, strip_append_code]
  · exact Ansi.strip_append h

theorem strip_paint (color : Bool) (style : Style) (t : Text) :
    strip (paint color style t) = strip t := by
  have h := strip_paint_append color style (Ansi.settled_nil t)
  rwa [List.append_nil, show strip [] = [] from rfl, List.append_nil] at h

def EndsOpen (t : Text) : Prop :=
  ∃ c, t.getLast? = some c ∧ c ≠ '\n'

theorem EndsOpen.append {more : Text} (h : EndsOpen more) (t : Text) : EndsOpen (t ++ more) := by
  obtain ⟨c, hlast, hc⟩ := h
  exact ⟨c, by rw [List.getLast?_append, hlast]; rfl, hc⟩

theorem endsOpen_of_notMem {t : Text} (hne : t ≠ []) (ht : '\n' ∉ t) : EndsOpen t :=
  ⟨t.getLast hne, List.getLast?_eq_some_getLast hne, fun h => ht (h ▸ List.getLast_mem hne)⟩

theorem EndsOpen.ne_nil {t : Text} (h : EndsOpen t) : t ≠ [] := by
  rintro rfl
  obtain ⟨c, hlast, -⟩ := h
  simp at hlast

theorem endsOpen_paint (color : Bool) (style : Style) {t : Text} (h : EndsOpen t) :
    EndsOpen (paint color style t) := by
  unfold paint
  split
  · exact EndsOpen.append ⟨'m', rfl, by decide⟩ _
  · exact h

theorem endsOpen_intercalate {separator : Text} {texts : List Text} (hne : texts ≠ [])
    (h : ∀ t ∈ texts, EndsOpen t) : EndsOpen (separator.intercalate texts) := by
  induction texts with
  | nil => exact absurd rfl hne
  | cons t more ih =>
    cases more with
    | nil => simpa using h t List.mem_cons_self
    | cons u more =>
      rw [List.intercalate_cons_cons]
      exact (ih (List.cons_ne_nil _ _) fun v hv => h v (List.mem_cons_of_mem _ hv)).append _

/-- Trimming takes a final newline away and stops before an open line. -/
theorem trimEnd_newline {t : Text} (h : EndsOpen t) : trimEnd '\n' (t ++ ['\n']) = t := by
  obtain ⟨c, hlast, hc⟩ := h
  rw [trimEnd_concat_self, trimEnd_of_getLast?]
  simpa [hlast] using hc

theorem endsOpen_trimEnd {t : Text} (hne : trimEnd '\n' t ≠ []) : EndsOpen (trimEnd '\n' t) := by
  have hlast := List.getLast?_eq_some_getLast hne
  refine ⟨_, hlast, fun hnew => getLast?_trimEnd '\n' t ?_⟩
  rw [hlast, hnew]

end Text

namespace Excerpt

open Text (EndsOpen)
open Text.Ansi (strip escape)

/-- The gutter as text. -/
def Look.gutterText (look : Look) (label : Text) : Text :=
  Text.alignRight look.width label ++ " |".toList

theorem mem_gutterText {look : Look} {label : Text} {c : Char} (h : c ∈ look.gutterText label) :
    c = ' ' ∨ c = '|' ∨ c ∈ label := by
  simp only [Look.gutterText, Text.alignRight, Text.blanks, List.mem_append,
    List.mem_replicate] at h
  rcases h with (⟨-, h⟩ | h) | h
  · exact Or.inl h
  · exact Or.inr (Or.inr h)
  · have hbar : c ∈ [' ', '|'] := h
    simp at hbar
    tauto

theorem isDigit_of_mem_numeral {n : Nat} {c : Char} (h : c ∈ Text.Numeral.ofNat n) : c.isDigit :=
  Nat.isDigit_of_mem_toDigits (by decide) (by decide) h

/-- The label of a row: its number, if it shows a line. -/
def Row.label : Row → Text
  | .code number _ => Text.Numeral.ofNat number
  | .top => []
  | .mark _ _ => []

theorem notMem_gutterText (look : Look) (row : Row) {c : Char} (hblank : c ≠ ' ') (hbar : c ≠ '|')
    (hdigit : c.isDigit = false) : c ∉ look.gutterText row.label := by
  intro h
  rcases mem_gutterText h with h | h | h
  · exact hblank h
  · exact hbar h
  · cases row with
    | code number source => simp [isDigit_of_mem_numeral h] at hdigit
    | top => simp [Row.label] at h
    | mark pad count => simp [Row.label] at h

theorem endsOpen_gutter (look : Look) (label : Text) : EndsOpen (look.gutter label) :=
  Text.endsOpen_paint _ _ (EndsOpen.append ⟨'|', rfl, by decide⟩ _)

/-- What stands behind the gutter of a row. -/
def Look.content (look : Look) : Row → Text
  | .top => []
  | .code _ source => if (look.code source).isEmpty then [] else ' ' :: look.code source
  | .mark pad count =>
    ' ' :: pad ++
      Text.paint look.color look.emphasis.style (List.replicate count look.emphasis.marker)

theorem row_eq (look : Look) (row : Row) :
    look.row row = look.gutter row.label ++ look.content row := by
  cases row <;> simp [Look.row, Look.content, Row.label]

theorem strip_row (look : Look) (row : Row) :
    strip (look.row row) = look.gutterText row.label ++ strip (look.content row) := by
  have hgutter : escape ∉ look.gutterText row.label :=
    notMem_gutterText look row (by decide) (by decide) (by decide)
  rw [row_eq, Look.gutter, ← Look.gutterText,
    Text.strip_paint_append _ _ (Text.Ansi.settled_of_notMem hgutter _),
    Text.Ansi.strip_of_notMem hgutter]

theorem notMem_pad {t pad : Text} {count : Nat} (h : (Row.mark pad count).Planned t) {c : Char}
    (htab : c ≠ '\t') (hblank : c ≠ ' ') : c ∉ ' ' :: pad := by
  intro hmem
  rcases List.mem_cons.mp hmem with hc | hc
  · exact hblank hc
  · exact (h.1 _ hc).elim htab hblank

theorem notMem_markers (emphasis : Emphasis) (count : Nat) {c : Char} (hc : c ∉ ['^', '~', '-']) :
    c ∉ List.replicate count emphasis.marker := by
  intro hmem
  rw [(List.mem_replicate.mp hmem).2] at hc
  cases emphasis <;> exact hc (by decide)

theorem strip_content_mark (look : Look) {t pad : Text} {count : Nat}
    (h : (Row.mark pad count).Planned t) :
    strip (look.content (.mark pad count)) =
      ' ' :: pad ++ List.replicate count look.emphasis.marker := by
  rw [Look.content, Text.Ansi.strip_notMem_append (notMem_pad h (by decide) (by decide)),
    Text.strip_paint, Text.Ansi.strip_of_notMem (notMem_markers _ _ (by decide))]

theorem strip_content_code (look : Look) (number : Nat) (source : Text) :
    strip (look.content (.code number source)) =
      if (look.code source).isEmpty then [] else ' ' :: strip (look.code source) := by
  rw [Look.content]
  split
  · rfl
  · exact Text.Ansi.strip_notMem_append (t := [' ']) (by decide) _

/-- A line is printed as it is, or painted without the newlines at its end. -/
theorem code_eq_or (look : Look) (source : Text) :
    look.code source = source ∨ ∃ painted, look.code source = Text.trimEnd '\n' painted := by
  unfold Look.code Highlight.line
  split
  · split
    · split
      · exact Or.inl rfl
      · exact Or.inr ⟨_, rfl⟩
    · exact Or.inl rfl
  · exact Or.inl rfl

theorem endsOpen_code (look : Look) {t : Text} {number : Nat} {source : Text}
    (h : (Row.code number source).Planned t) (hne : look.code source ≠ []) :
    EndsOpen (look.code source) := by
  rcases code_eq_or look source with heq | ⟨painted, heq⟩
  · rw [heq] at hne ⊢
    exact Text.endsOpen_of_notMem hne (line_of_planned h).1
  · rw [heq] at hne ⊢
    exact Text.endsOpen_trimEnd hne

theorem endsOpen_row (look : Look) {t : Text} {row : Row} (h : row.Planned t) :
    EndsOpen (look.row row) := by
  rw [row_eq]
  cases row with
  | top =>
    rw [Look.content, List.append_nil]
    exact endsOpen_gutter look _
  | code number source =>
    rw [Look.content]
    split
    · rw [List.append_nil]
      exact endsOpen_gutter look _
    · next hne =>
      have hcode := endsOpen_code look h (by simpa using hne)
      exact (hcode.append [' ']).append _
  | mark pad count =>
    have hmarks := notMem_markers look.emphasis count (c := '\n') (by decide)
    have hne : List.replicate count look.emphasis.marker ≠ [] := by
      rw [ne_eq, List.replicate_eq_nil_iff]
      exact Nat.ne_of_gt h.2
    exact ((Text.endsOpen_paint _ _ (Text.endsOpen_of_notMem hne hmarks)).append _).append _

theorem newline_notMem_gutterText (look : Look) (row : Row) : '\n' ∉ look.gutterText row.label :=
  notMem_gutterText look row (by decide) (by decide) (by decide)

section

variable {look : Look}

theorem row_plain (hcolor : look.color = false) (row : Row) :
    look.row row = look.gutterText row.label ++ look.content row := by
  rw [row_eq, Look.gutter, hcolor, Text.paint_plain, Look.gutterText]

theorem content_code_plain (hcolor : look.color = false) (number : Nat) (source : Text) :
    look.content (.code number source) = if source = [] then [] else ' ' :: source := by
  simp [Look.content, Look.code, hcolor]

theorem newline_notMem_row (hcolor : look.color = false) {t : Text} {row : Row} (h : row.Planned t) :
    '\n' ∉ look.row row := by
  rw [row_plain hcolor, List.mem_append, not_or]
  refine ⟨newline_notMem_gutterText look row, ?_⟩
  cases row with
  | top => exact List.not_mem_nil
  | code number source =>
    have hline := (line_of_planned h).1
    rw [content_code_plain hcolor]
    split
    · exact List.not_mem_nil
    · simpa using hline
  | mark pad count =>
    rw [Look.content, hcolor, Text.paint_plain, List.mem_append, not_or]
    exact ⟨notMem_pad h (by decide) (by decide), notMem_markers _ _ (by decide)⟩

end

end Excerpt

namespace Snippet

open Text.Ansi (strip escape)

/-- How the rows of the snippet are printed. -/
def look (s : Snippet) (f : Frame) (color : Bool) : Excerpt.Look where
  width := Excerpt.numberWidth s.text f.start f.stop f.indent
  emphasis := s.emphasis
  file := s.file
  color := color

def rows (s : Snippet) (f : Frame) : List Excerpt.Row :=
  Excerpt.rows s.text f.start f.stop

/-- The rows as printed, without the newline behind the last. -/
def printedRows (s : Snippet) (f : Frame) (color : Bool) : Text :=
  ['\n'].intercalate ((s.rows f).map (s.look f color).row)

/-- What a snippet draws above its rows. -/
def preamble (s : Snippet) (f : Frame) (color : Bool) : Text :=
  Excerpt.locationLine f.indent s.file s.startLine s.startIndex ++
    Excerpt.captionLine f.indent s.caption color

theorem draw_eq (s : Snippet) (f : Frame) (color : Bool) :
    s.draw f color = s.preamble f color ++ s.printedRows f color ++ ['\n'] := by
  rw [List.append_assoc]
  rfl

theorem planned_of_mem {s : Snippet} {f : Frame} {row : Excerpt.Row} (h : row ∈ s.rows f) :
    row.Planned s.text :=
  Excerpt.planned_of_mem_rows h

theorem rows_ne_nil (s : Snippet) (f : Frame) : s.rows f ≠ [] := by
  simp [rows, Excerpt.rows]

theorem endsOpen_printedRows (s : Snippet) (f : Frame) (color : Bool) :
    Text.EndsOpen (s.printedRows f color) := by
  apply Text.endsOpen_intercalate
  · simp [rows_ne_nil]
  · intro t ht
    obtain ⟨row, hrow, rfl⟩ := List.mem_map.mp ht
    exact Excerpt.endsOpen_row _ (planned_of_mem hrow)

/-- A drawn snippet ends in exactly one newline. -/
theorem trimEnd_draw (s : Snippet) (f : Frame) (color : Bool) :
    Text.trimEnd '\n' (s.draw f color) = s.preamble f color ++ s.printedRows f color := by
  rw [draw_eq, Text.trimEnd_newline ((s.endsOpen_printedRows f color).append _)]

theorem strip_captionLine (indent : Int) (caption : Option Text) (color : Bool) (more : Text) :
    strip (Excerpt.captionLine indent caption color ++ more) =
      strip (Excerpt.captionLine indent caption false) ++ strip more := by
  cases caption with
  | none => rfl
  | some c =>
    have hblanks : escape ∉ Text.blanks (indent - 2).toNat := by simp [Text.blanks, escape]
    have harrow : escape ∉ "-->".toList := by decide
    have hpainted (painted : Bool) (rest : Text) :
        strip (Excerpt.captionLine indent (some c) painted ++ rest) =
          Text.blanks (indent - 2).toNat ++ "-->".toList ++ strip (' ' :: c) ++
            '\n' :: strip rest := by
      simp only [Excerpt.captionLine, List.append_assoc, List.singleton_append]
      rw [Text.Ansi.strip_notMem_append hblanks,
        Text.strip_paint_append _ _ (Text.Ansi.settled_of_notMem harrow _),
        Text.Ansi.strip_of_notMem harrow, Text.Ansi.strip_newline]
    have hplain := hpainted false []
    rw [List.append_nil] at hplain
    rw [hpainted, hplain]
    simp [show strip [] = [] from rfl]

/-- The location is one finished line or nothing. -/
theorem strip_locationLine (indent : Int) (file : Option Text) (line index : Option Int) (more : Text) :
    strip (Excerpt.locationLine indent file line index ++ more) =
      strip (Excerpt.locationLine indent file line index) ++ strip more := by
  simp only [Excerpt.locationLine]
  split
  · rfl
  · rw [List.append_assoc, List.singleton_append, Text.Ansi.strip_newline, Text.Ansi.strip_newline]
    simp [show strip [] = [] from rfl]

theorem strip_preamble (s : Snippet) (f : Frame) (color : Bool) (more : Text) :
    strip (s.preamble f color ++ more) = strip (s.preamble f false) ++ strip more := by
  simp only [preamble, List.append_assoc]
  rw [strip_locationLine, strip_locationLine, strip_captionLine, List.append_assoc]

theorem strip_printedRows (s : Snippet) (f : Frame) (color : Bool) :
    strip (s.printedRows f color) =
      ['\n'].intercalate ((s.rows f).map fun row =>
        (s.look f color).gutterText row.label ++ strip ((s.look f color).content row)) := by
  rw [printedRows, Text.Ansi.strip_intercalate List.not_mem_nil, List.map_map]
  congr 2
  funext row
  exact Excerpt.strip_row _ row

end Snippet

end Pinpoint

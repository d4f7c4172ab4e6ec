import Pinpoint.Proofs.Tokens
import Pinpoint.Proofs.Writing

/-!
# Highlighting and the layout of an excerpt

A highlighted excerpt without its control sequences has the rows of the plain one,
but with prepared lines. It is the plain excerpt exactly when no displayed line
begins with a byte order mark or holds a carriage return; each of these returns
breaks its line in two.
-/

namespace Pinpoint

open Text.Ansi (strip escape)

namespace Text

theorem notMem_intercalate {c : Char} {separator : Text} {texts : List Text} (hsep : c ∉ separator)
    (h : ∀ t ∈ texts, c ∉ t) : c ∉ separator.intercalate texts := by
  induction texts with
  | nil => simp
  | cons t more ih =>
    have ht := h t List.mem_cons_self
    cases more with
    | nil => simpa using ht
    | cons u more =>
      have hmore := ih fun v hv => h v (List.mem_cons_of_mem _ hv)
      simp [List.intercalate_cons_cons, ht, hsep, hmore]

theorem count_intercalate {texts : List Text} (hne : texts ≠ []) :
    (['\n'].intercalate texts).count '\n' + 1 = texts.length + texts.flatten.count '\n' := by
  induction texts with
  | nil => exact absurd rfl hne
  | cons t more ih =>
    cases more with
    | nil => simp [Nat.add_comm]
    | cons u more =>
      have hmore := ih (List.cons_ne_nil u more)
      rw [List.intercalate_cons_cons, List.count_append, List.count_append, List.flatten_cons,
        List.count_append, List.length_cons]
      simp only [List.count_singleton_self]
      omega

/-- As many newlines as between the rows means that no row has its own. -/
theorem count_intercalate_eq_iff {texts : List Text} (hne : texts ≠ []) :
    (['\n'].intercalate texts).count '\n' + 1 = texts.length ↔ ∀ t ∈ texts, '\n' ∉ t := by
  rw [count_intercalate hne]
  constructor
  · intro h t ht hmem
    have hnone : texts.flatten.count '\n' = 0 := by omega
    exact List.count_eq_zero.mp hnone (List.mem_flatten_of_mem ht hmem)
  · intro h
    have hnone : texts.flatten.count '\n' = 0 := by
      rw [List.count_eq_zero, List.mem_flatten]
      rintro ⟨t, ht, hmem⟩
      exact h t ht hmem
    omega

end Text

namespace Excerpt

/-- The row with the line that its language receives. -/
def Row.prepared : Row → Row
  | .top => .top
  | .code number source => .code number (Highlight.prepared source)
  | .mark pad count => .mark pad count

theorem label_prepared (row : Row) : row.prepared.label = row.label := by
  cases row <;> rfl

theorem strip_highlighted {look : Look} (hcolor : look.color = true) {language : Highlight.Language}
    (hfile : look.file.bind Highlight.Language.ofPath? = some language) {source : Text}
    (hesc : escape ∉ source) (hline : '\n' ∉ source) (hlast : source.getLast? ≠ some '\r') :
    strip (look.code source) = Highlight.prepared source ∧
      (look.code source = [] ↔ Highlight.prepared source = []) := by
  simp only [Look.code, hcolor, ↓reduceIte, Highlight.line, hfile]
  by_cases hempty : source = []
  · subst hempty
    exact ⟨rfl, Iff.rfl⟩
  · rw [if_neg (by simpa using hempty)]
    exact ⟨Highlight.strip_languagePaint language hesc hline hlast,
      Highlight.languagePaint_eq_nil_iff language hesc hline hlast⟩

end Excerpt

namespace Snippet

/-- A row as the plain excerpt prints it. -/
def plainRow (s : Snippet) (f : Frame) (row : Excerpt.Row) : Text :=
  (s.look f false).row row

theorem plainRow_eq (s : Snippet) (f : Frame) (row : Excerpt.Row) :
    s.plainRow f row = (s.look f false).gutterText row.label ++ (s.look f false).content row :=
  Excerpt.row_plain rfl row

theorem strip_content_highlighted {s : Snippet} {language : Highlight.Language}
    (hfile : s.file.bind Highlight.Language.ofPath? = some language) (htext : escape ∉ s.text)
    (f : Frame) {row : Excerpt.Row} (hrow : row ∈ s.rows f) :
    strip ((s.look f true).content row) = (s.look f false).content row.prepared := by
  have hplanned := planned_of_mem hrow
  cases row with
  | top => rfl
  | code number source =>
    obtain ⟨hline, hlast, hin⟩ := Excerpt.line_of_planned hplanned
    have hcode : (s.look f true).color = true := rfl
    obtain ⟨hstrip, hempty⟩ :=
      Excerpt.strip_highlighted hcode hfile (fun h => htext (hin _ h)) hline hlast
    rw [Excerpt.strip_content_code, hstrip, Excerpt.Row.prepared, Excerpt.content_code_plain rfl]
    simp only [List.isEmpty_iff, hempty]
  | mark pad count =>
    rw [Excerpt.strip_content_mark _ hplanned]
    rfl

/-- No text of the snippet holds an introducer. -/
structure EscapeFree (s : Snippet) : Prop where
  text : escape ∉ s.text
  file : ∀ file ∈ s.file, escape ∉ file
  caption : ∀ caption ∈ s.caption, escape ∉ caption

theorem escape_notMem_ofInt (n : Int) : escape ∉ Text.Numeral.ofInt n := by
  have hdigits (k : Nat) : escape ∉ Text.Numeral.ofNat k :=
    fun h => absurd (Excerpt.isDigit_of_mem_numeral h) (by decide)
  cases n with
  | ofNat k => exact hdigits k
  | negSucc k =>
    rw [Text.Numeral.ofInt, List.mem_cons, not_or]
    exact ⟨by decide, hdigits _⟩

theorem EscapeFree.preamble {s : Snippet} (h : s.EscapeFree) (f : Frame) :
    escape ∉ s.preamble f false := by
  have hblank : escape ≠ ' ' := by decide
  have hnewline : escape ≠ '\n' := by decide
  have hdash : escape ≠ '-' := by decide
  have hhead : escape ≠ '>' := by decide
  have hlocation : escape ∉ Excerpt.locationLine f.indent s.file s.startLine s.startIndex := by
    simp only [Excerpt.locationLine]
    split
    · exact List.not_mem_nil
    · have hfields : escape ∉ [':'].intercalate (s.file.toList ++
          s.startLine.toList.map Text.Numeral.ofInt ++
          s.startIndex.toList.map Text.Numeral.ofInt) := by
        apply Text.notMem_intercalate (by decide)
        intro t ht
        simp only [List.mem_append, Option.mem_toList, List.mem_map] at ht
        rcases ht with (ht | ⟨n, -, rfl⟩) | ⟨n, -, rfl⟩
        · exact h.file t ht
        · exact escape_notMem_ofInt n
        · exact escape_notMem_ofInt n
      simpa [Text.blanks, hblank, hnewline] using hfields
  have hcaption : escape ∉ Excerpt.captionLine f.indent s.caption false := by
    cases hc : s.caption with
    | none => exact List.not_mem_nil
    | some c =>
      have hfree := h.caption c hc
      simp [Excerpt.captionLine, Text.blanks, Text.paint_plain, hfree, hdash, hhead, hblank, hnewline]
  rw [Snippet.preamble, List.mem_append, not_or]
  exact ⟨hlocation, hcaption⟩

/-- A highlighted excerpt shows the plain rows with prepared lines. -/
theorem strip_draw_highlighted {s : Snippet} {language : Highlight.Language}
    (hfile : s.file.bind Highlight.Language.ofPath? = some language) (h : s.EscapeFree)
    (f : Frame) :
    strip (s.draw f true) =
      s.preamble f false ++
        ['\n'].intercalate ((s.rows f).map fun row => s.plainRow f row.prepared) ++ ['\n'] := by
  rw [draw_eq, List.append_assoc, strip_preamble, Text.Ansi.strip_of_notMem (h.preamble f),
    Text.Ansi.strip_newline, strip_printedRows, List.append_assoc]
  congr 3
  apply List.map_congr_left
  intro row hrow
  rw [strip_content_highlighted hfile h.text f hrow, plainRow_eq, Excerpt.label_prepared]
  rfl

theorem draw_plain (s : Snippet) (f : Frame) :
    s.draw f false =
      s.preamble f false ++ ['\n'].intercalate ((s.rows f).map (s.plainRow f)) ++ ['\n'] :=
  s.draw_eq f false

theorem newline_notMem_plainRow (s : Snippet) (f : Frame) {row : Excerpt.Row} (h : row ∈ s.rows f) :
    '\n' ∉ s.plainRow f row :=
  Excerpt.newline_notMem_row rfl (planned_of_mem h)

theorem plainRow_prepared_code (s : Snippet) (f : Frame) (number : Nat) (source : Text) :
    s.plainRow f (Excerpt.Row.code number source).prepared = s.plainRow f (.code number source) ↔
      Highlight.prepared source = source := by
  rw [plainRow_eq, plainRow_eq, Excerpt.label_prepared, List.append_cancel_left_eq,
    Excerpt.Row.prepared, Excerpt.content_code_plain rfl, Excerpt.content_code_plain rfl]
  cases hprepared : Highlight.prepared source <;> cases hsource : source <;> simp

theorem newline_mem_plainRow_prepared (s : Snippet) (f : Frame) {number : Nat} {source : Text}
    (h : .code number source ∈ s.rows f) :
    '\n' ∈ s.plainRow f (Excerpt.Row.code number source).prepared ↔ '\r' ∈ source := by
  have hline := (Excerpt.line_of_planned (planned_of_mem h)).1
  rw [plainRow_eq, Excerpt.label_prepared, List.mem_append,
    or_iff_right (Excerpt.newline_notMem_gutterText _ _), ← Highlight.newline_mem_prepared_iff hline,
    Excerpt.Row.prepared, Excerpt.content_code_plain rfl]
  cases Highlight.prepared source <;> simp

theorem count_plainRows (s : Snippet) (f : Frame) :
    (['\n'].intercalate ((s.rows f).map (s.plainRow f))).count '\n' + 1 = (s.rows f).length := by
  have hfree : ∀ t ∈ (s.rows f).map (s.plainRow f), '\n' ∉ t := by
    intro t ht
    obtain ⟨row, hrow, rfl⟩ := List.mem_map.mp ht
    exact s.newline_notMem_plainRow f hrow
  rw [(Text.count_intercalate_eq_iff (by simp [rows_ne_nil])).mpr hfree, List.length_map]

theorem count_preparedRows_iff (s : Snippet) (f : Frame) :
    (['\n'].intercalate ((s.rows f).map fun row => s.plainRow f row.prepared)).count '\n' + 1 =
        (s.rows f).length ↔
      ∀ number source, .code number source ∈ s.rows f → '\r' ∉ source := by
  have hlength : ((s.rows f).map fun row => s.plainRow f row.prepared).length = (s.rows f).length :=
    List.length_map _
  rw [← hlength, Text.count_intercalate_eq_iff (by simp [rows_ne_nil]), List.forall_mem_map]
  constructor
  · intro hfree number source hrow hreturn
    exact hfree _ hrow ((s.newline_mem_plainRow_prepared f hrow).mpr hreturn)
  · intro hreturn row hrow
    cases row with
    | top => exact s.newline_notMem_plainRow f hrow
    | code number source =>
      rw [s.newline_mem_plainRow_prepared f hrow]
      exact hreturn number source hrow
    | mark pad count => exact s.newline_notMem_plainRow f hrow

/-- Joined rows without a newline of their own determine the rows. -/
theorem preparedRows_eq_iff (s : Snippet) (f : Frame) :
    ['\n'].intercalate ((s.rows f).map fun row => s.plainRow f row.prepared) =
        ['\n'].intercalate ((s.rows f).map (s.plainRow f)) ↔
      ∀ number source, .code number source ∈ s.rows f →
        source.head? ≠ some Highlight.mark ∧ '\r' ∉ source := by
  constructor
  · intro heq number source hrow
    have hcount := s.count_plainRows f
    rw [← heq, s.count_preparedRows_iff f] at hcount
    have hfree : ∀ t ∈ (s.rows f).map fun row => s.plainRow f row.prepared, '\n' ∉ t := by
      rw [← Text.count_intercalate_eq_iff (by simp [rows_ne_nil]), List.length_map,
        s.count_preparedRows_iff f]
      exact hcount
    have hplain : ∀ t ∈ (s.rows f).map (s.plainRow f), '\n' ∉ t := by
      rw [← Text.count_intercalate_eq_iff (by simp [rows_ne_nil]), List.length_map,
        s.count_plainRows f]
    have hsplit := congrArg (List.splitOn '\n') heq
    rw [List.splitOn_intercalate '\n' hfree (by simp [rows_ne_nil]),
      List.splitOn_intercalate '\n' hplain (by simp [rows_ne_nil]), List.map_inj_left] at hsplit
    rw [← Highlight.prepared_eq_self_iff (Excerpt.line_of_planned (planned_of_mem hrow)).1,
      ← s.plainRow_prepared_code f number source]
    exact hsplit _ hrow
  · intro hrows
    congr 1
    apply List.map_congr_left
    intro row hrow
    cases row with
    | top => rfl
    | code number source =>
      rw [s.plainRow_prepared_code, Highlight.prepared_eq_self_iff
        (Excerpt.line_of_planned (planned_of_mem hrow)).1]
      exact hrows number source hrow
    | mark pad count => rfl

/-- Highlighting keeps an excerpt as it is exactly when no displayed line begins
with a byte order mark and none holds a carriage return. The number of output
lines is kept exactly when none holds a carriage return. -/
theorem highlighted_build_iff {s : Snippet} {language : Highlight.Language}
    (hfile : s.file.bind Highlight.Language.ofPath? = some language) (hescape : s.EscapeFree)
    {plain : Text} (hplain : s.build false = .ok plain) :
    ∃ frame colored, s.frame s.resolve = .ok frame ∧ s.build true = .ok colored ∧
      (strip colored = plain ↔
        ∀ number source, .code number source ∈ Excerpt.rows s.text frame.start frame.stop →
          source.head? ≠ some Highlight.mark ∧ '\r' ∉ source) ∧
      ((strip colored).count '\n' = plain.count '\n' ↔
        ∀ number source, .code number source ∈ Excerpt.rows s.text frame.start frame.stop →
          '\r' ∉ source) := by
  obtain ⟨hallowed, rfl⟩ := build_eq_ok_iff.mp hplain
  have hcolored : s.build true = .ok (s.draw s.ownFrame true) := build_eq_ok_iff.mpr ⟨hallowed, rfl⟩
  refine ⟨s.ownFrame, s.draw s.ownFrame true, frame_of_drawn hallowed, hcolored, ?_, ?_⟩
  · rw [strip_draw_highlighted hfile hescape, draw_plain, List.append_cancel_right_eq,
      List.append_cancel_left_eq]
    exact s.preparedRows_eq_iff s.ownFrame
  · rw [strip_draw_highlighted hfile hescape, draw_plain]
    simp only [List.count_append, List.count_singleton_self, Nat.add_assoc]
    rw [Nat.add_left_cancel_iff, s.count_plainRows]
    exact s.count_preparedRows_iff s.ownFrame

/-- A changed line of a patch, with an empty line around it. -/
def changedLine : Snippet where
  text := ['\n', '-', 'a', '\n', '+', 'b']
  file := some ['n', '.', 'd', 'i', 'f', 'f']
  startLine := some 1
  stopLine := some 3

theorem highlighted_build_changedLine :
    (changedLine.file.bind Highlight.Language.ofPath? = some .patch ∧ changedLine.EscapeFree) ∧
    ∃ plain, changedLine.build false = .ok plain ∧
      ∃ colored, changedLine.build true = .ok colored ∧ strip colored = plain := by
  have hfile : changedLine.file.bind Highlight.Language.ofPath? = some .patch := by decide
  have hescape : changedLine.EscapeFree := by
    constructor
    · decide
    · rintro file ⟨⟩
      decide
    · rintro caption ⟨⟩
  have hplain : changedLine.build false = .ok (changedLine.draw changedLine.ownFrame false) :=
    build_eq_ok_iff.mpr ⟨by decide, rfl⟩
  obtain ⟨frame, colored, -, hcolored, hsame, -⟩ := highlighted_build_iff hfile hescape hplain
  refine ⟨⟨hfile, hescape⟩, _, hplain, colored, hcolored, hsame.mpr ?_⟩
  intro number source hrow
  have hin := (Excerpt.line_of_planned (Excerpt.planned_of_mem_rows hrow)).2.2
  constructor
  · intro hhead
    exact absurd (hin _ (List.mem_of_head? hhead)) (by decide)
  · exact fun hreturn => absurd (hin _ hreturn) (by decide)

/-- A carriage return inside a line of a plain text file breaks the line in two. -/
theorem highlighted_build_breaks_line :
    let s : Snippet :=
      { text := ['a', '\r', 'b', '\n'], file := some ['n', '.', 't', 'x', 't'],
        startLine := some 1, stopLine := some 1 }
    (s.build true).toOption.map strip = some "    n.txt:1\n   |\n 1 | a\nb\n   | ^^^\n".toList ∧
    (s.build false).toOption = some "    n.txt:1\n   |\n 1 | a\rb\n   | ^^^\n".toList := by
  refine ⟨by decide +kernel, by decide +kernel⟩

end Snippet

end Pinpoint

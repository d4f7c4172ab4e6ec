import Pinpoint.Proofs.Assembly

/-!
# Color changes the presentation only

A diagnostic with color and the same one without are the same text once the
control sequences are removed, and they fail alike. Texts of the user may hold
control sequences, whole or broken off. None of them is completed by a painted
piece next to it, or by what follows it when the paint is gone.

No language is known for the files here: highlighting may change the code itself.
-/

namespace Pinpoint

open Text.Ansi (strip escape)

namespace Snippet

/-- No language is known for the snippet's file. -/
def Unhighlighted (s : Snippet) : Prop :=
  s.file.bind Highlight.Language.ofPath? = none

theorem Unhighlighted.code {s : Snippet} (h : s.Unhighlighted) (f : Frame) (color : Bool)
    (source : Text) : (s.look f color).code source = source := by
  have hfile : (s.look f color).file.bind Highlight.Language.ofPath? = none := h
  simp [Excerpt.Look.code, Highlight.line, hfile]

theorem strip_content {s : Snippet} (h : s.Unhighlighted) (f : Frame) (color : Bool)
    {row : Excerpt.Row} (hrow : row ∈ s.rows f) :
    strip ((s.look f color).content row) = strip ((s.look f false).content row) := by
  cases row with
  | top => rfl
  | code number source =>
    rw [Excerpt.strip_content_code, Excerpt.strip_content_code, h.code, h.code]
  | mark pad count =>
    rw [Excerpt.strip_content_mark _ (planned_of_mem hrow),
      Excerpt.strip_content_mark _ (planned_of_mem hrow)]
    rfl

/-- Without highlighting, a block is the same text with and without color. -/
theorem strip_block {s : Snippet} (h : s.Unhighlighted) (color : Bool) :
    strip (s.block color) = strip (s.block false) := by
  rw [block, block, trimEnd_draw, trimEnd_draw, strip_preamble, strip_preamble s s.ownFrame false,
    strip_printedRows, strip_printedRows]
  congr 2
  apply List.map_congr_left
  intro row hrow
  rw [strip_content h s.ownFrame color hrow]
  rfl

end Snippet

namespace Diagnostic

theorem tailLength?_dashes (n : Nat) : Text.Ansi.tailLength? (List.replicate n '-') = none := by
  induction n with
  | zero => rfl
  | succ n ih =>
    rw [List.replicate_succ, Text.Ansi.tailLength?, if_pos (by decide), ih]
    rfl

/-- Neither a title nor dashes complete a sequence that the error code began: the
closing parenthesis and a blank leave only intermediate bytes open. -/
theorem settled_headerLabel (severity : Severity) (code title : Option Text) (n : Nat) :
    Text.Ansi.Settled (headerLabel severity code) (headerTitle title ++ List.replicate n '-') := by
  cases code with
  | none =>
    apply Text.Ansi.settled_of_notMem
    cases severity <;> decide
  | some code =>
    have hlabel : headerLabel severity (some code) =
        ("--- ".toList ++ severity.label ++ '(' :: code) ++ [')'] := by
      simp only [headerLabel, List.append_assoc, List.cons_append]
    rw [hlabel]
    apply Text.Ansi.settled_of_intermediate (by decide)
    cases title with
    | none =>
      rw [headerTitle, List.singleton_append, Text.Ansi.tailLength?, if_pos (by decide),
        tailLength?_dashes]
      rfl
    | some title => rfl

theorem strip_headerLine (severity : Severity) (code title : Option Text) (width : Int)
    (color : Bool) :
    strip (headerLine severity code title width color) =
      strip (headerLine severity code title width false) := by
  have hlabel := settled_headerLabel severity code title (headerDashes severity code title width).toNat
  simp only [headerLine, List.append_assoc]
  rw [Text.strip_paint_append _ _ hlabel, Text.strip_paint_append _ _ hlabel]

theorem headerLine_ne_nil (severity : Severity) (code title : Option Text) (width : Int)
    (color : Bool) : headerLine severity code title width color ≠ [] := by
  cases title <;> simp [headerLine, headerTitle]

/-- What the joining of sections and the removal of sequences see of a section. -/
def seen (t : Text) : Text × Bool :=
  (strip t, t.isEmpty)

theorem strip_joinSections (sections : List (Option Text)) :
    strip (joinSections sections) =
      ['\n', '\n'].intercalate
        ((((sections.map (Option.map seen)).filterMap id).filter (!·.2)).map Prod.fst) := by
  rw [joinSections, Text.Ansi.strip_intercalate (by decide)]
  congr 1
  induction sections with
  | nil => rfl
  | cons head more ih =>
    cases head with
    | none => simpa using ih
    | some t =>
      by_cases ht : t.isEmpty <;> simp_all [seen]

/-- The blocks look alike, and the same snippet fails first. -/
theorem blocks_seen (color : Bool) {snippets : List Snippet} (h : ∀ s ∈ snippets, s.Unhighlighted) :
    (blocks color 0 snippets).map (List.map seen) = (blocks false 0 snippets).map (List.map seen) := by
  rcases drawn_or_failsFirst snippets with hdrawn | ⟨index, fault, hfirst⟩
  · have hblock (s : Snippet) (hs : s ∈ snippets) : seen (s.block color) = seen (s.block false) := by
      have hopen (color : Bool) : (s.block color).isEmpty = false :=
        List.isEmpty_eq_false_iff.mpr (s.endsOpen_block color).ne_nil
      simp only [seen, Snippet.strip_block (h s hs), hopen]
    rw [blocks_drawn hdrawn, blocks_drawn hdrawn]
    simp only [Except.map, List.map_map]
    exact congrArg Except.ok (List.map_congr_left hblock)
  · rw [hfirst.blocks_eq, hfirst.blocks_eq]

/-- Whether a header fits does not depend on color, and neither does anything behind it. -/
theorem strip_build {d : Diagnostic} (h : ∀ s ∈ d.snippets, s.Unhighlighted) (width : Int)
    (color : Bool) : (d.build width color).map strip = (d.build width false).map strip := by
  by_cases hfits : d.HeaderFits width
  · have hblocks := blocks_seen color h
    simp only [build, header_of_fits hfits, mapError_ok, bind, Except.bind, pure, Except.pure]
    cases hcolored : blocks color 0 d.snippets with
    | error error =>
      cases hplain : blocks false 0 d.snippets <;> simp_all [Except.map]
    | ok colored =>
      cases hplain : blocks false 0 d.snippets with
      | error error => simp_all [Except.map]
      | ok plain =>
        rw [hcolored, hplain] at hblocks
        have hseen : colored.map seen = plain.map seen := Except.ok.inj hblocks
        have hheader : seen (headerLine d.severity d.code d.title width color) =
            seen (headerLine d.severity d.code d.title width false) := by
          simp only [seen, strip_headerLine _ _ _ _ color,
            List.isEmpty_eq_false_iff.mpr (headerLine_ne_nil _ _ _ _ _)]
        have hsections (texts : List Text) :
            (texts.map some).map (Option.map seen) = (texts.map seen).map some := by simp
        simp only [Except.map, strip_joinSections, List.map_append, hsections, hseen, List.map_cons,
          Option.map_some, hheader]
  · rw [build_of_not_fits hfits, build_of_not_fits hfits]

/-- Color decides neither whether a diagnostic is built nor which snippet fails and why, and
without control sequences the two outputs are one text. Nothing is assumed of the texts, the
width or the numbers: a header that is too long, or a number, fails both builds alike. -/
theorem build_color_presentation {d : Diagnostic} (h : ∀ s ∈ d.snippets, s.Unhighlighted)
    (width : Int) :
    ((∃ colored, d.build width true = .ok colored) ↔ ∃ plain, d.build width false = .ok plain) ∧
    (∀ error, d.build width true = .error error ↔ d.build width false = .error error) ∧
    (∀ colored plain, d.build width true = .ok colored → d.build width false = .ok plain →
      strip colored = strip plain) := by
  have hstrip := strip_build h width true
  cases hcolored : d.build width true <;> cases hplain : d.build width false <;>
    simp_all [Except.map]

/-- An error code and a source that break off inside a control sequence. -/
def brokenOff : Diagnostic where
  code := some ['\x1b', '[', '1']
  snippets := [{ text := ['a', '\x1b', '[', '\n'], startLine := some 1, stopLine := some 1 }]

theorem build_color_presentation_brokenOff :
    (∃ s ∈ brokenOff.snippets, s.Unhighlighted) ∧
    (brokenOff.build 20 true).toOption.isSome ∧
    (∀ colored plain, brokenOff.build 20 true = .ok colored → brokenOff.build 20 false = .ok plain →
      strip colored = strip plain) ∧
    brokenOff.build (Nat.pow 10 19) true = .error (.tooLarge .length) ∧
    brokenOff.build (Nat.pow 10 19) false = .error (.tooLarge .length) := by
  have hunknown : ∀ s ∈ brokenOff.snippets, s.Unhighlighted := by
    intro s hs
    rw [List.mem_singleton.mp hs]
    rfl
  have hwide : brokenOff.build (Nat.pow 10 19) true = .error (.tooLarge .length) :=
    build_of_not_fits (by decide +kernel) true
  refine ⟨⟨_, List.mem_singleton_self _, rfl⟩, by decide +kernel, ?_, hwide, ?_⟩
  · exact (build_color_presentation hunknown 20).2.2
  · exact ((build_color_presentation hunknown (Nat.pow 10 19)).2.1 _).mp hwide

end Diagnostic

end Pinpoint

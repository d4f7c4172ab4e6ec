import Mathlib.Data.List.Forall2
import Pinpoint.Diagnostic.Basic
import Pinpoint.Proofs.Painting
import Pinpoint.Proofs.Writing
import Pinpoint.Proofs.Results

/-!
# How a diagnostic is put together

The header comes first, and if it is too long nothing else matters. Then the snippets
are built one after another, and the first that fails decides the outcome of the whole.
Whether a snippet fails, and why, depends on nothing but the snippet. If none does, each
contributes what it draws without the newline at its end.

Joining goes through the sections once. It puts a blank line before a section exactly if
something has been printed already, so empty sections leave no trace at any place.
-/

namespace Pinpoint

namespace Snippet

/-- What a snippet contributes to a diagnostic. -/
def block (s : Snippet) (color : Bool) : Text :=
  Text.trimEnd '\n' (s.draw s.ownFrame color)

/-- A drawn snippet ends in one newline, and trimming takes no other. -/
theorem draw_eq_block (s : Snippet) (color : Bool) :
    s.draw s.ownFrame color = s.block color ++ ['\n'] := by
  rw [block, trimEnd_draw, draw_eq]

theorem endsOpen_block (s : Snippet) (color : Bool) : Text.EndsOpen (s.block color) := by
  rw [block, trimEnd_draw]
  exact (s.endsOpen_printedRows s.ownFrame color).append _

theorem build_eq_newline_iff {s : Snippet} {color : Bool} {block : Text} :
    s.build color = .ok (block ++ ['\n']) ↔ s.fault? = none ∧ s.block color = block := by
  rw [build_eq_ok_iff, draw_eq_block, List.append_cancel_right_eq]

theorem exists_build_iff {s : Snippet} {color : Bool} :
    (∃ out, s.build color = .ok out) ↔ s.fault? = none := by
  simp only [build_eq_ok_iff]
  simp

/-- A snippet whose numbers can be written fails only by being refused. -/
theorem exists_refused_of_build {s : Snippet} {color : Bool} {fault : Fault}
    (hwrites : s.Writes s.givenNumbers) (h : s.build color = .error fault) :
    ∃ cause, fault = .refused cause := by
  rw [build_eq_error_iff, fault?_of_writes hwrites] at h
  obtain ⟨cause, -, rfl⟩ := Option.map_eq_some_iff.mp h
  exact ⟨cause, rfl⟩

/-- What a build ends with is one newline, and trimming takes no more than this one. -/
theorem block_of_build {s : Snippet} {color : Bool} {out : Text} (h : s.build color = .ok out) :
    out = s.block color ++ ['\n'] ∧ s.block color ≠ [] ∧ (s.block color).getLast? ≠ some '\n' ∧
      Text.trimEnd '\n' out = s.block color := by
  obtain ⟨-, rfl⟩ := build_eq_ok_iff.mp h
  obtain ⟨c, hlast, hc⟩ := s.endsOpen_block color
  refine ⟨s.draw_eq_block color, (s.endsOpen_block color).ne_nil, ?_, rfl⟩
  rw [hlast]
  intro hnewline
  exact hc (Option.some.inj hnewline)

end Snippet

namespace Diagnostic

section

variable {color : Bool} {base : Nat}

theorem blocks_append {before : List Snippet} (h : ∀ s ∈ before, s.fault? = none)
    (after : List Snippet) :
    blocks color base (before ++ after) =
      (blocks color (base + before.length) after).map (before.map (·.block color) ++ ·) := by
  induction before generalizing base with
  | nil =>
    rw [List.nil_append, List.length_nil, Nat.add_zero]
    cases blocks color base after <;> rfl
  | cons s more ih =>
    have hs : s.fault? = none := h s List.mem_cons_self
    have hmore (base : Nat) : blocks color base (more ++ after) =
        (blocks color (base + more.length) after).map (more.map (·.block color) ++ ·) :=
      ih fun u hu => h u (List.mem_cons_of_mem _ hu)
    rw [List.cons_append, blocks, s.build_eq, hs, hmore, List.length_cons, Nat.add_assoc,
      Nat.add_comm 1]
    cases blocks color (base + (more.length + 1)) after <;> rfl

/-- Nothing behind the first snippet that fails is looked at. -/
theorem blocks_failed {before : List Snippet} (h : ∀ s ∈ before, s.fault? = none) {s : Snippet}
    {fault : Snippet.Fault} (hs : s.fault? = some fault) (after : List Snippet) :
    blocks color base (before ++ s :: after) = .error (blockError (base + before.length) fault) := by
  rw [blocks_append h, blocks, s.build_eq, hs]
  rfl

theorem blocks_drawn {snippets : List Snippet} (h : ∀ s ∈ snippets, s.fault? = none) :
    blocks color base snippets = .ok (snippets.map (·.block color)) := by
  have happend : blocks color base (snippets ++ []) = _ := blocks_append h []
  rw [List.append_nil] at happend
  rw [happend, blocks, Except.map, List.append_nil]

end

/-- One output for each snippet, all of which are built. -/
theorem forall₂_build_iff {color : Bool} {snippets : List Snippet} {blocks : List Text} :
    List.Forall₂ (fun s block => s.build color = .ok (block ++ ['\n'])) snippets blocks ↔
      (∀ s ∈ snippets, s.fault? = none) ∧ snippets.map (·.block color) = blocks := by
  induction snippets generalizing blocks with
  | nil => simp [List.forall₂_nil_left_iff, eq_comm]
  | cons s more ih =>
    cases blocks with
    | nil => simp [List.forall₂_nil_right_iff]
    | cons block rest =>
      rw [List.forall₂_cons, ih, Snippet.build_eq_newline_iff, List.forall_mem_cons, List.map_cons,
        List.cons.injEq, and_and_and_comm]

/-- The snippet at this index cannot be built, with this fault, and those before it can,
whether with color or without. -/
def FailsFirst (snippets : List Snippet) (index : Nat) (fault : Snippet.Fault) : Prop :=
  ∃ before s after, snippets = before ++ s :: after ∧ before.length = index ∧
    (∀ earlier ∈ before, ∀ color, ∃ out, earlier.build color = .ok out) ∧
    ∀ color, s.build color = .error fault

theorem FailsFirst.blocks_eq {snippets : List Snippet} {index : Nat} {fault : Snippet.Fault}
    (h : FailsFirst snippets index fault) (color : Bool) :
    blocks color 0 snippets = .error (blockError index fault) := by
  obtain ⟨before, s, after, rfl, rfl, hbefore, hs⟩ := h
  have hdrawn (earlier : Snippet) (hmem : earlier ∈ before) : earlier.fault? = none :=
    Snippet.exists_build_iff.mp (hbefore earlier hmem color)
  rw [blocks_failed hdrawn (Snippet.build_eq_error_iff.mp (hs color)), Nat.zero_add]

theorem FailsFirst.ne_read {snippets : List Snippet} {index : Nat} {fault : Snippet.Fault}
    (h : FailsFirst snippets index fault) (error : Snippet.ReadError) : fault ≠ .read error := by
  obtain ⟨_, s, _, -, -, -, hs⟩ := h
  rintro rfl
  exact s.fault?_ne_read error (Snippet.build_eq_error_iff.mp (hs false))

section

variable {index : Nat} {fault : Snippet.Fault}

theorem snippet_eq_blockError_iff {failed : Nat} {cause : Snippet.Error} :
    Error.snippet failed cause = blockError index fault ↔ failed = index ∧ fault = .refused cause := by
  cases fault <;> simp [blockError, eq_comm]

theorem tooLarge_eq_blockError_iff {part : Text.TooLarge} :
    Error.tooLarge part = blockError index fault ↔ fault = .tooLarge part := by
  cases fault <;> simp [blockError, eq_comm]

theorem read_eq_blockError_iff {error : Snippet.ReadError} :
    Error.read error = blockError index fault ↔ fault = .read error := by
  cases fault <;> simp [blockError, eq_comm]

end

/-- Snippets that are not all built have a first one that fails. -/
theorem exists_failsFirst {snippets : List Snippet} (h : ∃ s ∈ snippets, s.fault? ≠ none) :
    ∃ index fault, FailsFirst snippets index fault := by
  have hfound : (snippets.find? (·.fault?.isSome)).isSome := by
    obtain ⟨s, hs, hfails⟩ := h
    rw [List.find?_isSome]
    exact ⟨s, hs, Option.isSome_iff_ne_none.mpr hfails⟩
  obtain ⟨s, hs⟩ := Option.isSome_iff_exists.mp hfound
  obtain ⟨hfails, before, after, hsplit, hbefore⟩ := List.find?_eq_some_iff_append.mp hs
  obtain ⟨fault, hfault⟩ := Option.isSome_iff_exists.mp hfails
  refine ⟨before.length, fault, before, s, after, hsplit, rfl, ?_, ?_⟩
  · intro earlier hearlier color
    apply Snippet.exists_build_iff.mpr
    simpa using hbefore earlier hearlier
  · intro color
    exact Snippet.build_eq_error_iff.mpr hfault

theorem drawn_or_failsFirst (snippets : List Snippet) :
    (∀ s ∈ snippets, s.fault? = none) ∨ ∃ index fault, FailsFirst snippets index fault := by
  by_cases hdrawn : ∀ s ∈ snippets, s.fault? = none
  · exact Or.inl hdrawn
  · exact Or.inr (exists_failsFirst (by simpa using hdrawn))

/-- The sections that hold something. -/
def filled (sections : List (Option Text)) : List Text :=
  (sections.filterMap id).filter (!·.isEmpty)

theorem filled_empty (more : List (Option Text)) : filled (some [] :: more) = filled more := by
  simp [filled]

theorem filled_cons {text : Text} (h : text ≠ []) (more : List (Option Text)) :
    filled (some text :: more) = text :: filled more := by
  simp [filled, h]

/-- What is printed once a further section has been joined. -/
def appendSection (output : Text) : Option Text → Text
  | none => output
  | some text =>
    if text = [] then output
    else if output = [] then text
    else output ++ ['\n', '\n'] ++ text

/-- What is printed already takes part in the joining as a section of its own. -/
theorem foldl_appendSection (output : Text) (sections : List (Option Text)) :
    sections.foldl appendSection output = ['\n', '\n'].intercalate (filled (some output :: sections)) := by
  induction sections generalizing output with
  | nil =>
    by_cases hempty : output = []
    · simp [filled, hempty]
    · simp [filled, hempty]
  | cons head more ih =>
    rw [List.foldl_cons, ih]
    cases head with
    | none => rfl
    | some text =>
      by_cases htext : text = []
      · rw [appendSection, if_pos htext, htext]
        by_cases hempty : output = []
        · rw [hempty, filled_empty, filled_empty, filled_empty]
        · rw [filled_cons hempty, filled_cons hempty, filled_empty]
      · by_cases hempty : output = []
        · rw [appendSection, if_neg htext, if_pos hempty, hempty, filled_empty]
        · -- What is printed and the section behind it become one section of the rest.
          have hjoined : output ++ ['\n', '\n'] ++ text ≠ [] := by simp
          rw [appendSection, if_neg htext, if_neg hempty, filled_cons hjoined, filled_cons hempty,
            filled_cons htext, List.intercalate_cons_cons]
          cases filled more with
          | nil => simp
          | cons next rest => simp [List.intercalate_cons_cons]

theorem joinSections_eq_foldl (sections : List (Option Text)) :
    joinSections sections = sections.foldl appendSection [] := by
  rw [foldl_appendSection]
  rfl

/-- A header without its dashes: the severity, the code in parentheses, and the title. -/
def headerText (severity : Severity) (code title : Option Text) : Text :=
  "--- ".toList ++ severity.label ++ (code.elim [] fun c => '(' :: c ++ [')']) ++
    (title.elim [] fun t => ": ".toList ++ t) ++ [' ']

theorem headerText_eq (severity : Severity) (code title : Option Text) :
    headerText severity code title = headerLabel severity code ++ headerTitle title := by
  have hlabel : headerLabel severity code =
      "--- ".toList ++ severity.label ++ code.elim [] fun c => '(' :: c ++ [')'] := by
    cases code <;> rfl
  rw [hlabel]
  cases title with
  | none => exact congrArg (· ++ [' ']) (List.append_nil _)
  | some t => exact List.append_assoc _ _ _

theorem headerDashes_eq (severity : Severity) (code title : Option Text) (width : Int) :
    headerDashes severity code title width = width - (headerText severity code title).length := by
  rw [headerDashes, headerText_eq, List.length_append]
  omega

theorem headerLine_plain (severity : Severity) (code title : Option Text) (width : Int) :
    headerLine severity code title width false =
      headerText severity code title ++
        List.replicate (width - (headerText severity code title).length).toNat '-' := by
  rw [headerLine, Text.paint_plain, headerDashes_eq, ← headerText_eq]

theorem length_headerLine_plain (severity : Severity) (code title : Option Text) (width : Int) :
    ((headerLine severity code title width false).length : Int) =
      max width (headerText severity code title).length := by
  rw [headerLine_plain, List.length_append, List.length_replicate]
  omega

/-- The dashes of the header can be written. -/
def HeaderFits (d : Diagnostic) (width : Int) : Prop :=
  headerDashes d.severity d.code d.title width ≤ Text.maxLength

instance (d : Diagnostic) (width : Int) : Decidable (d.HeaderFits width) :=
  inferInstanceAs (Decidable (_ ≤ _))

theorem headerFits_iff {d : Diagnostic} {width : Int} :
    d.HeaderFits width ↔ width ≤ Text.maxLength + (headerText d.severity d.code d.title).length := by
  rw [HeaderFits, headerDashes_eq]
  omega

section

variable {d : Diagnostic} {width : Int}

theorem header_of_fits (h : d.HeaderFits width) (color : Bool) :
    header d.severity d.code d.title width color =
      .ok (headerLine d.severity d.code d.title width color) := by
  rw [header, Text.checkLength_of_le h]
  rfl

theorem header_of_not_fits (h : ¬ d.HeaderFits width) (color : Bool) :
    header d.severity d.code d.title width color = .error .length := by
  rw [header, Text.checkLength_of_not_le h]
  rfl

/-- A header that is too long fails the diagnostic before any snippet is looked at. -/
theorem build_of_not_fits (h : ¬ d.HeaderFits width) (color : Bool) :
    d.build width color = .error (.tooLarge .length) := by
  rw [build, header_of_not_fits h]
  rfl

theorem build_of_drawn (hfits : d.HeaderFits width) (h : ∀ s ∈ d.snippets, s.fault? = none)
    (color : Bool) :
    d.build width color = .ok (joinSections
      ([some (headerLine d.severity d.code d.title width color), d.summary, d.description] ++
        (d.snippets.map (·.block color)).map some ++ [d.footer])) := by
  rw [build, header_of_fits hfits, blocks_drawn h]
  rfl

theorem FailsFirst.build_eq {index : Nat} {fault : Snippet.Fault}
    (h : FailsFirst d.snippets index fault) (hfits : d.HeaderFits width) (color : Bool) :
    d.build width color = .error (blockError index fault) := by
  rw [build, header_of_fits hfits, h.blocks_eq]
  rfl

variable {color : Bool}

/-- The three ways in which a diagnostic ends. -/
theorem build_cases (d : Diagnostic) (width : Int) (color : Bool) :
    (¬ d.HeaderFits width ∧ d.build width color = .error (.tooLarge .length)) ∨
    (d.HeaderFits width ∧ ∃ index fault, FailsFirst d.snippets index fault ∧
      d.build width color = .error (blockError index fault)) ∨
    (d.HeaderFits width ∧ (∀ s ∈ d.snippets, s.fault? = none) ∧ ∃ out, d.build width color = .ok out) := by
  by_cases hfits : d.HeaderFits width
  · rcases drawn_or_failsFirst d.snippets with hdrawn | ⟨index, fault, hfirst⟩
    · exact Or.inr (Or.inr ⟨hfits, hdrawn, _, build_of_drawn hfits hdrawn color⟩)
    · exact Or.inr (Or.inl ⟨hfits, index, fault, hfirst, hfirst.build_eq hfits color⟩)
  · exact Or.inl ⟨hfits, build_of_not_fits hfits color⟩

theorem build_eq_error_iff_failsFirst {error : Error} :
    d.build width color = .error error ↔
      (¬ d.HeaderFits width ∧ error = .tooLarge .length) ∨
      d.HeaderFits width ∧ ∃ index fault, FailsFirst d.snippets index fault ∧
        error = blockError index fault := by
  constructor
  · intro herror
    rcases build_cases d width color with ⟨hfits, h⟩ | ⟨hfits, index, fault, hfirst, h⟩ | ⟨-, -, out, h⟩
    · rw [h] at herror
      exact Or.inl ⟨hfits, (Except.error.inj herror).symm⟩
    · rw [h] at herror
      exact Or.inr ⟨hfits, index, fault, hfirst, (Except.error.inj herror).symm⟩
    · rw [h] at herror
      cases herror
  · rintro (⟨hfits, rfl⟩ | ⟨hfits, index, fault, hfirst, rfl⟩)
    · exact build_of_not_fits hfits color
    · exact hfirst.build_eq hfits color

theorem build_eq_snippet_iff {index : Nat} {cause : Snippet.Error} :
    d.build width color = .error (.snippet index cause) ↔
      d.HeaderFits width ∧ FailsFirst d.snippets index (.refused cause) := by
  simp only [build_eq_error_iff_failsFirst, snippet_eq_blockError_iff]
  constructor
  · rintro (⟨-, ⟨⟩⟩ | ⟨hfits, first, fault, hfirst, rfl, rfl⟩)
    exact ⟨hfits, hfirst⟩
  · rintro ⟨hfits, hfirst⟩
    exact Or.inr ⟨hfits, index, _, hfirst, rfl, rfl⟩

theorem build_eq_tooLarge_iff {part : Text.TooLarge} :
    d.build width color = .error (.tooLarge part) ↔
      (¬ d.HeaderFits width ∧ part = .length) ∨
      d.HeaderFits width ∧ ∃ index, FailsFirst d.snippets index (.tooLarge part) := by
  simp only [build_eq_error_iff_failsFirst, tooLarge_eq_blockError_iff, Error.tooLarge.injEq,
    exists_eq_right]

theorem build_ne_read (d : Diagnostic) (width : Int) (color : Bool) (error : Snippet.ReadError) :
    d.build width color ≠ .error (.read error) := by
  simp only [ne_eq, build_eq_error_iff_failsFirst, read_eq_blockError_iff]
  rintro (⟨-, ⟨⟩⟩ | ⟨-, index, fault, hfirst, rfl⟩)
  exact hfirst.ne_read error rfl

theorem build_eq_ok_iff_forall₂ {out : Text} :
    d.build width color = .ok out ↔ d.HeaderFits width ∧
      ∃ blocks,
        List.Forall₂ (fun s block => s.build color = .ok (block ++ ['\n'])) d.snippets blocks ∧
        out = joinSections ([some (headerLine d.severity d.code d.title width color), d.summary,
          d.description] ++ blocks.map some ++ [d.footer]) := by
  constructor
  · intro hout
    rcases build_cases d width color with ⟨-, h⟩ | ⟨-, index, fault, -, h⟩ | ⟨hfits, hdrawn, -⟩
    · rw [h] at hout
      cases hout
    · rw [h] at hout
      cases hout
    · rw [build_of_drawn hfits hdrawn] at hout
      exact ⟨hfits, _, forall₂_build_iff.mpr ⟨hdrawn, rfl⟩, (Except.ok.inj hout).symm⟩
  · rintro ⟨hfits, blocks, hblocks, rfl⟩
    obtain ⟨hdrawn, rfl⟩ := forall₂_build_iff.mp hblocks
    exact build_of_drawn hfits hdrawn color

end

/-- A diagnostic whose header fits fails with its first snippet that fails, whatever else
it holds and however it is printed. Otherwise its sections that hold something are joined
by one blank line: the header, the prose, the output of each snippet without the newline
at its end, and the link. If its header is too long, this is how it fails, whatever its
snippets are. A snippet that is not refused fails only by a number that is too large. -/
theorem build_assembles (d : Diagnostic) (width : Int) (color : Bool) :
    (d.HeaderFits width ↔
      width ≤ Text.maxLength + (headerText d.severity d.code d.title).length) ∧
    (¬ d.HeaderFits width → d.build width color = .error (.tooLarge .length)) ∧
    ((∃ s ∈ d.snippets, ∃ fault, s.build color = .error fault) →
      ∃ index fault, FailsFirst d.snippets index fault) ∧
    (∀ s ∈ d.snippets, s.Writes s.givenNumbers → ∀ fault, s.build color = .error fault →
      ∃ cause, fault = .refused cause) ∧
    (d.HeaderFits width →
      (∀ index cause, d.build width color = .error (.snippet index cause) ↔
        FailsFirst d.snippets index (.refused cause)) ∧
      (∀ part, d.build width color = .error (.tooLarge part) ↔
        ∃ index, FailsFirst d.snippets index (.tooLarge part)) ∧
      (∀ error, d.build width color ≠ .error (.read error)) ∧
      ∀ out, d.build width color = .ok out ↔
        ∃ blocks,
          List.Forall₂ (fun s block => s.build color = .ok (block ++ ['\n'])) d.snippets blocks ∧
          out = ['\n', '\n'].intercalate (filled
            ([some (headerLine d.severity d.code d.title width color), d.summary, d.description] ++
              blocks.map some ++ [d.link.map ("To learn more, read the docs at ".toList ++ ·)]))) ∧
    (∀ sections, joinSections sections = sections.foldl appendSection []) ∧
    (∀ (s : Snippet) (out : Text), s.build color = .ok out →
      ∃ block, out = block ++ ['\n'] ∧ block ≠ [] ∧ block.getLast? ≠ some '\n' ∧
        Text.trimEnd '\n' out = block) ∧
    ∃ dashes, headerLine d.severity d.code d.title width false =
        headerText d.severity d.code d.title ++ List.replicate dashes '-' ∧
      ((headerLine d.severity d.code d.title width false).length : Int) =
        max width (headerText d.severity d.code d.title).length := by
  refine ⟨headerFits_iff, fun hfits => build_of_not_fits hfits color, ?_, ?_, ?_,
    joinSections_eq_foldl, ?_, _, headerLine_plain _ _ _ _, length_headerLine_plain _ _ _ _⟩
  · rintro ⟨s, hs, fault, hfault⟩
    exact exists_failsFirst ⟨s, hs, by simp [Snippet.build_eq_error_iff.mp hfault]⟩
  · exact fun s _ hwrites fault hfault => Snippet.exists_refused_of_build hwrites hfault
  · intro hfits
    refine ⟨fun index cause => ?_, fun part => ?_, build_ne_read d width color, fun out => ?_⟩
    · rw [build_eq_snippet_iff, and_iff_right hfits]
    · rw [build_eq_tooLarge_iff, and_iff_right hfits, or_iff_right fun h => h.1 hfits]
    · rw [build_eq_ok_iff_forall₂, and_iff_right hfits]
      exact Iff.rfl
  · intro s out hout
    exact ⟨s.block color, Snippet.block_of_build hout⟩

/-- Two snippets that are built, and one between them without an end. The summary is empty. -/
theorem build_assembles_middle_fails :
    let first : Snippet := { text := ['a'], startLine := some 1, stopLine := some 1 }
    let middle : Snippet := { text := ['a'], startLine := some 1 }
    let last : Snippet := { text := ['b', '\n'], startIndex := some 9, stopIndex := some 0 }
    let d : Diagnostic := { summary := some [], link := some ['u'], snippets := [first, last] }
    let failing : Diagnostic := { d with snippets := [first, middle, last] }
    d.HeaderFits 10 ∧ failing.HeaderFits 10 ∧ ¬ failing.HeaderFits (Nat.pow 10 19) ∧
    (∃ s ∈ failing.snippets, ∃ fault, s.build true = .error fault) ∧
    (∃ index fault, FailsFirst failing.snippets index fault) ∧
    failing.build 10 true = .error (.snippet 1 .stopMissing) ∧
    failing.build (Nat.pow 10 19) true = .error (.tooLarge .length) ∧
    (∃ block, first.build false = .ok (block ++ ['\n']) ∧ block.getLast? ≠ some '\n') ∧
    d.build 10 false = .ok ("--- Error \n\n".toList ++ "    1\n   |\n 1 | a\n   | ^\n\n".toList ++
      "    9\n   |\n 1 | b\n   | ^\n\n".toList ++ "To learn more, read the docs at u".toList) := by
  intro first middle last d failing
  have hmiddle (color : Bool) : middle.build color = .error (.refused .stopMissing) := by rfl
  have hfirst : first.build false = .ok "    1\n   |\n 1 | a\n   | ^\n".toList :=
    toOption_eq_some_iff.mp (by decide +kernel)
  have hlast : last.build false = .ok "    9\n   |\n 1 | b\n   | ^\n".toList :=
    toOption_eq_some_iff.mp (by decide +kernel)
  have hfits : d.HeaderFits 10 := by decide +kernel
  have hfailingFits : failing.HeaderFits 10 := by decide +kernel
  have hwide : ¬ failing.HeaderFits (Nat.pow 10 19) := by decide +kernel
  have hfault : ∃ s ∈ failing.snippets, ∃ fault, s.build true = .error fault :=
    ⟨middle, List.mem_cons_of_mem _ List.mem_cons_self, _, hmiddle true⟩
  obtain ⟨-, -, hfails, -, herror, -⟩ := build_assembles failing 10 true
  obtain ⟨-, htoolong, -⟩ := build_assembles failing (Nat.pow 10 19) true
  obtain ⟨-, -, -, -, hout, -, hblock, -⟩ := build_assembles d 10 false
  obtain ⟨block, hsplit, -, hopen, -⟩ := hblock first _ hfirst
  refine ⟨hfits, hfailingFits, hwide, hfault, hfails hfault, ?_, htoolong hwide,
    ⟨block, hsplit ▸ hfirst, hopen⟩, ?_⟩
  · refine ((herror hfailingFits).1 1 _).mpr ⟨[first], middle, [last], rfl, rfl, ?_, hmiddle⟩
    intro earlier hearlier color
    rw [List.mem_singleton.mp hearlier]
    exact Snippet.exists_build_iff.mpr (by decide +kernel)
  · refine ((hout hfits).2.2.2 _).mpr
      ⟨["    1\n   |\n 1 | a\n   | ^".toList, "    9\n   |\n 1 | b\n   | ^".toList], ?_, ?_⟩
    · exact .cons hfirst (.cons hlast .nil)
    · decide

/-- A snippet without positions is refused, and the diagnostic does not report it below a
header of this width. -/
theorem build_hides_failure :
    let s : Snippet := { text := ['a'] }
    let d : Diagnostic := { snippets := [s] }
    FailsFirst d.snippets 0 (.refused .startMissing) ∧
    d.build (Nat.pow 10 19) false = .error (.tooLarge .length) ∧
    ∀ index cause, d.build (Nat.pow 10 19) false ≠ .error (.snippet index cause) := by
  intro s d
  have hbuild : d.build (Nat.pow 10 19) false = .error (.tooLarge .length) :=
    build_of_not_fits (by decide +kernel) false
  refine ⟨⟨[], s, [], rfl, rfl, fun _ h => absurd h List.not_mem_nil, fun _ => rfl⟩, hbuild, ?_⟩
  intro index cause h
  rw [hbuild] at h
  cases h

end Diagnostic

end Pinpoint

import Pinpoint.Proofs.Assembly
import Pinpoint.Proofs.Regions
import Pinpoint.Proofs.Runs

/-!
# Two commands about one line

`locate` searches for the line and prints where it starts. `render` resolves, validates
and draws a snippet, and numbers its rows by counting newlines. Both give the same
verdict on the line, because a snippet of one line is refused exactly if the text does
not have the line; and what is drawn begins at the printed offset, with the row of this
line. Only `render` needs a header, and fails on any line if this is too long.
-/

namespace Pinpoint

namespace Excerpt

/-- Below the top stands the line of the region's start. -/
theorem rows_eq_first (t : Text) (start stop : Int) :
    ∃ more, rows t start stop =
      .top :: .code (t.lineNumberAt start) (shownLine t (t.lineNumberAt start)).2 :: more := by
  rw [rows_eq_blocks, shownNumbers_eq_cons, List.flatMap_cons]
  exact ⟨_, rfl⟩

end Excerpt

namespace Snippet

/-- The region is given by one line and nothing else. -/
structure OfLine (s : Snippet) (n : Int) : Prop where
  startIndex : s.startIndex = none
  stopIndex : s.stopIndex = none
  startLine : s.startLine = some n
  stopLine : s.stopLine = some n

namespace OfLine

variable {s : Snippet} {n : Int} {o : Nat}

theorem refusal?_eq_none_iff (h : s.OfLine n) : s.refusal? = none ↔ s.text.HasLine n := by
  rw [Snippet.refusal?_eq_none_iff]
  simp [h.startLine, h.stopLine]

theorem region_eq (h : s.OfLine n) (ho : s.text.lineStart? n = some o) :
    s.region s.resolve = .ok (o, s.text.lineEnd o) := by
  have hdrawn := h.refusal?_eq_none_iff.mpr (Text.hasLine_of_lineStart? ho)
  obtain ⟨first, hfirst, last, hlast, a, b, ha, hb, hregion⟩ :=
    region_of_lines hdrawn h.startIndex h.stopIndex
  obtain rfl := Option.some.inj (h.startLine.symm.trans hfirst)
  obtain rfl := Option.some.inj (h.stopLine.symm.trans hlast)
  obtain rfl := Option.some.inj (ho.symm.trans ha)
  obtain rfl := Option.some.inj (ho.symm.trans hb)
  exact hregion

theorem ownFrame_start (h : s.OfLine n) (ho : s.text.lineStart? n = some o) :
    s.ownFrame.start = o := by
  have hregion := (h.region_eq ho).symm.trans s.region_resolve
  exact (congrArg Prod.fst (Except.ok.inj hregion)).symm

/-- The rows begin with the line that the region is given by. -/
theorem rows_eq (h : s.OfLine n) (ho : s.text.lineStart? n = some o) :
    (s.text.lineNumberAt o : Int) = n ∧
      ∃ more, s.rows s.ownFrame =
        .top :: .code n.toNat (Excerpt.shownLine s.text n.toNat).2 :: more := by
  obtain ⟨m, a, rfl, hbegins⟩ := (Text.hasLine_of_lineStart? ho).exists_beginsLine
  obtain rfl := Option.some.inj (hbegins.lineStart?_eq.symm.trans ho)
  obtain ⟨more, hrows⟩ := Excerpt.rows_eq_first s.text a s.ownFrame.stop
  rw [hbegins.lineNumberAt_eq] at hrows
  refine ⟨by rw [hbegins.lineNumberAt_eq], more, ?_⟩
  rw [Snippet.rows, h.ownFrame_start ho]
  exact hrows

end OfLine

end Snippet

namespace Command

section

variable {t : FileTree} {directory : Path} {file word : Text} {n : Int} {bytes : List UInt8}

theorem readWords_locate (hfile : t.stat directory file = .ok (.file bytes))
    (hword : Text.Integer.ofText? word = some n) {words : List Text}
    (h : locateGrammar.parse words = .ok { positional := [file, word] }) :
    readWords t directory ("locate".toList :: words) = .ok (false, .locate file n) := by
  have hlocate : locateRequest t directory words = .ok (.locate file n) :=
    locateRequest_eq_ok_iff.mpr ⟨_, word, h, List.not_mem_nil, rfl, hword, bytes, hfile⟩
  exact readWords_eq_ok_iff.mpr (.locate (parse_main_word (by decide) words) rfl rfl hlocate)

theorem readWords_render_line (hplain : isOption file = false)
    (hfile : t.stat directory file = .ok (.file bytes))
    (hword : Text.Integer.ofText? word = some n) :
    readWords t directory
        ["render".toList, file, "--line-start".toList, word, "--line-end".toList, word] =
      .ok (false, .render { file, lineStart := some n, lineEnd := some n }) := by
  let given : Parsed RenderOption :=
    { options := [(.lineStart, word), (.lineEnd, word)], positional := [file] }
  have hparse : renderGrammar.parse [file, "--line-start".toList, word, "--line-end".toList, word] =
      .ok given := by
    rw [parse_word rfl hplain]
    rfl
  have hhelp : .help ∉ given.occurring := by
    show .help ∉ [RenderOption.lineStart, .lineEnd].eraseDups
    decide
  have haccepts : ∀ option value, given.value? option = some value → option.accepts value := by
    intro option value hvalue
    cases option <;> cases hvalue <;> simp [RenderOption.accepts, hword]
  have hrequest : RenderRequest.ofGiven file given.value? =
      { file, lineStart := Text.Integer.ofText? word, lineEnd := Text.Integer.ofText? word } := rfl
  rw [hword] at hrequest
  exact readWords_eq_render_iff.mpr ⟨given, file,
    ⟨_, parse_main_word (by decide) _, hparse, hhelp, haccepts, rfl, bytes, hfile⟩, hrequest.symm⟩

end

/-- The request is for one line of the file and gives no offsets. -/
structure RenderRequest.OfLine (r : RenderRequest) (file : Text) (n : Int) : Prop where
  file : r.file = file
  lineStart : r.lineStart = some n
  lineEnd : r.lineEnd = some n
  indexStart : r.indexStart = none
  indexEnd : r.indexEnd = none

theorem RenderRequest.OfLine.snippet {r : RenderRequest} {file : Text} {n : Int}
    (h : r.OfLine file n) (text : Text) : (r.snippet text).OfLine n :=
  ⟨h.indexStart, h.indexEnd, h.lineStart, h.lineEnd⟩

/-- The diagnostic of a request with the rows of a frame. -/
def RenderRequest.shown (r : RenderRequest) (width : Int) (color : Bool) (text : Text)
    (frame : Snippet.Frame) : Text :=
  let d := r.diagnostic text
  let s := r.snippet text
  Diagnostic.joinSections
    [some (Diagnostic.headerLine d.severity d.code d.title width color), d.summary, d.description,
      some (s.preamble frame color ++ s.printedRows frame color), d.footer]

section

variable {t : FileTree} {directory : Path} {file text : Text} {n : Int} {o : Nat} {config : Config}
  {r : RenderRequest} {width : Int}

theorem locate_found (hsource : sourceText t directory file = .ok text)
    (ho : text.lineStart? n = some o) :
    (locate t directory file n).exitCode = 0 ∧
      (locate t directory file n).stdout = Text.Numeral.ofNat o ++ ['\n'] := by
  simp only [locate, hsource, ho, and_self]

theorem locate_absent (hsource : sourceText t directory file = .ok text)
    (hno : text.lineStart? n = none) : (locate t directory file n).exitCode = 1 := by
  simp only [locate, hsource, hno]
  cases Text.write n <;> rfl

theorem build_drawn (hfits : (r.diagnostic text).HeaderFits width)
    (hdrawn : (r.snippet text).fault? = none) (color : Bool) :
    (r.diagnostic text).build width color =
      .ok (r.shown width color text (r.snippet text).ownFrame) := by
  have hall : ∀ s ∈ (r.diagnostic text).snippets, s.fault? = none := by
    simpa [RenderRequest.diagnostic] using hdrawn
  rw [Diagnostic.build_of_drawn hfits hall]
  simp only [RenderRequest.diagnostic, RenderRequest.shown, Snippet.block, Snippet.trimEnd_draw]
  rfl

theorem build_refused (hfits : (r.diagnostic text).HeaderFits width) {cause : Snippet.Error}
    (hrefused : (r.snippet text).fault? = some (.refused cause)) (color : Bool) :
    (r.diagnostic text).build width color = .error (.snippet 0 cause) := by
  have hfirst : Diagnostic.FailsFirst (r.diagnostic text).snippets 0 (.refused cause) :=
    Diagnostic.failsFirst_singleton_iff.mpr ⟨rfl, hrefused⟩
  exact hfirst.build_eq hfits color

theorem outcome_drawn (hfits : (r.diagnostic text).HeaderFits config.headerWidth)
    (hdrawn : (r.snippet text).fault? = none) (terminal : Bool) :
    let color := (r.color.getD config.color).enabled terminal
    r.outcome config terminal (.ok text) =
      .printed color (r.shown config.headerWidth color text (r.snippet text).ownFrame) := by
  simp only [RenderRequest.outcome, build_drawn hfits hdrawn]

theorem outcome_refused (hfits : (r.diagnostic text).HeaderFits config.headerWidth)
    {cause : Snippet.Error} (hrefused : (r.snippet text).fault? = some (.refused cause))
    (terminal : Bool) :
    r.outcome config terminal (.ok text) = .reported (Diagnostic.Error.snippet 0 cause).message := by
  simp only [RenderRequest.outcome, build_refused hfits hrefused]
  rfl

/-- The log changes neither what is printed nor how the run ends. -/
theorem run_render_observed {words : List Text} {verbose : Bool} (terminal : Bool)
    (hread : readWords t directory words = .ok (verbose, .render r))
    (hconfig : Config.discover t directory [] = .ok config)
    (hsource : sourceText t directory r.file = .ok text) :
    (run t directory terminal words).exitCode = (r.outcome config terminal (.ok text)).exitCode ∧
      (run t directory terminal words).stdout = (r.outcome config terminal (.ok text)).stdout ∧
      (run t directory terminal words).escaped = (r.outcome config terminal (.ok text)).escaped := by
  have houtcome := outcome_render_of_discover (r := r) terminal hconfig
  rw [hsource] at houtcome
  rw [run_of_readWords terminal hread, ← houtcome]
  exact ⟨rfl, rfl, rfl⟩

end

/-- A run of `locate` succeeds exactly if a run of `render` from this line to this line
does, and otherwise both fail with exit code 1, as long as the header is not too long for
the width of the configuration: below one that is, `render` fails without a report. On
success the printed offset is where the line of this number starts, and the excerpt begins
there with the row of this line. -/
theorem locate_agrees {t : FileTree} {directory : Path} {file text : Text} {n : Int}
    {config : Config} (hsource : sourceText t directory file = .ok text)
    (hconfig : Config.discover t directory [] = .ok config) (terminal : Bool) :
    (∀ word bytes, isOption file = false → t.stat directory file = .ok (.file bytes) →
      Text.Integer.ofText? word = some n →
      readWords t directory ["locate".toList, doubleDash, file, word] = .ok (false, .locate file n) ∧
      (isOption word = false →
        readWords t directory ["locate".toList, file, word] = .ok (false, .locate file n)) ∧
      readWords t directory
          ["render".toList, file, "--line-start".toList, word, "--line-end".toList, word] =
        .ok (false, .render { file, lineStart := some n, lineEnd := some n })) ∧
    ∀ locating rendering verbose verbose' r,
      readWords t directory locating = .ok (verbose, .locate file n) →
      readWords t directory rendering = .ok (verbose', .render r) → r.OfLine file n →
      let located := run t directory terminal locating
      let rendered := run t directory terminal rendering
      let s := r.snippet text
      let color := (r.color.getD config.color).enabled terminal
      let fits := (r.diagnostic text).HeaderFits config.headerWidth
      (fits → (located.exitCode = 0 ↔ rendered.exitCode = 0)) ∧
      (¬ fits → rendered.exitCode = 1 ∧ rendered.stdout = [] ∧
        rendered.escaped = some (.tooLarge .length)) ∧
      (located.exitCode ≠ 0 → located.exitCode = 1 ∧ rendered.exitCode = 1) ∧
      (located.exitCode = 0 → ∃ (o : Nat) (frame : Snippet.Frame) (more : List Excerpt.Row),
        located.stdout = Text.Numeral.ofNat o ++ ['\n'] ∧ (text.lineNumberAt o : Int) = n ∧
        s.frame s.resolve = .ok frame ∧ s.region s.resolve = .ok (o, frame.stop) ∧
        s.rows frame = .top :: .code n.toNat (Excerpt.shownLine text n.toNat).2 :: more ∧
        (fits → rendered.stdout =
          (Outcome.printed color (r.shown config.headerWidth color text frame)).stdout)) := by
  refine ⟨fun word bytes hplain hfile hword => ⟨?_, ?_, ?_⟩, ?_⟩
  · exact readWords_locate hfile hword (parse_doubleDash _ _)
  · intro hnumber
    refine readWords_locate hfile hword ?_
    rw [parse_word rfl hplain, parse_word rfl hnumber]
    rfl
  · exact readWords_render_line hplain hfile hword
  intro locating rendering verbose verbose' r hlocating hrendering hr located rendered s color fits
  obtain rfl := hr.file
  have hlocated : located = (locate t directory r.file n).outcome verbose :=
    run_of_readWords terminal hlocating
  obtain ⟨hcode, hstdout, hescaped⟩ := run_render_observed terminal hrendering hconfig hsource
  have hshort : r.IsShort := isShort_of_readWords hrendering
  have htable := hshort.fault?_snippet text
  have hline := (hr.snippet text).refusal?_eq_none_iff
  have hlong (hno : ¬ fits) : rendered.exitCode = 1 ∧ rendered.stdout = [] ∧
      rendered.escaped = some (.tooLarge .length) := by
    rw [hcode, hstdout, hescaped, outcome_of_not_fits hno]
    exact ⟨rfl, rfl, rfl⟩
  cases ho : text.lineStart? n with
  | none =>
    have hno : ¬ text.HasLine n := by
      rw [← Text.lineStart?_isSome_iff, ho]
      exact Bool.false_ne_true
    obtain ⟨cause, hcause⟩ := Option.ne_none_iff_exists'.mp (mt hline.mp hno)
    rw [hcause] at htable
    have hlocatedCode : located.exitCode = 1 := by
      rw [hlocated]
      exact locate_absent hsource ho
    have hrenderedCode : rendered.exitCode = 1 := by
      by_cases hfits : fits
      · rw [hcode, outcome_refused hfits htable]
        rfl
      · exact (hlong hfits).1
    rw [hlocatedCode, hrenderedCode]
    exact ⟨fun _ => Iff.rfl, fun hno => ⟨rfl, (hlong hno).2⟩, fun _ => ⟨rfl, rfl⟩,
      fun hzero => absurd hzero Nat.one_ne_zero⟩
  | some o =>
    have hdrawn : s.fault? = none := by
      rw [htable, hline.mpr (Text.hasLine_of_lineStart? ho)]
      rfl
    have hfound : located.exitCode = 0 ∧ located.stdout = Text.Numeral.ofNat o ++ ['\n'] := by
      rw [hlocated]
      exact locate_found hsource ho
    have hrenderedCode (hfits : fits) : rendered.exitCode = 0 := by
      rw [hcode, outcome_drawn hfits hdrawn]
      rfl
    refine ⟨fun hfits => iff_of_true hfound.1 (hrenderedCode hfits), hlong,
      fun hne => absurd hfound.1 hne, fun _ => ?_⟩
    obtain ⟨hnumber, more, hrows⟩ := (hr.snippet text).rows_eq ho
    refine ⟨o, s.ownFrame, more, hfound.2, hnumber, Snippet.frame_of_drawn hdrawn, ?_, hrows, ?_⟩
    · rw [s.region_resolve, (hr.snippet text).ownFrame_start ho]
    · intro hfits
      rw [hstdout, outcome_drawn hfits hdrawn]

/-- The last line of a file with line ends of two characters, under a configuration. -/
theorem locate_agrees_last_line :
    let t : FileTree :=
      { top := "/w".toList
        entries :=
          [(["friendly.toml".toList], .file (Text.Utf8.encode "render.header_width = 9".toList)),
            ([['f']], .file (Text.Utf8.encode "a\r\n\r\nb".toList))] }
    let text : Text := ['a', '\n', '\n', 'b']
    let config : Config := { headerWidth := 9 }
    let locating : List Text := ["locate".toList, ['f'], "+3".toList]
    let rendering : List Text :=
      ["render".toList, ['f'], "--line-start".toList, "+3".toList, "--line-end".toList, "+3".toList]
    let r : RenderRequest := { file := ['f'], lineStart := some 3, lineEnd := some 3 }
    let s := r.snippet text
    (sourceText t [] ['f'] = .ok text ∧ Config.discover t [] [] = .ok config ∧
      (r.diagnostic text).HeaderFits config.headerWidth) ∧
    (readWords t [] locating = .ok (false, .locate ['f'] 3) ∧
      readWords t [] rendering = .ok (false, .render r)) ∧
    (run t [] false locating).exitCode = 0 ∧ (run t [] false rendering).exitCode = 0 ∧
    ∃ (o : Nat) (frame : Snippet.Frame) (more : List Excerpt.Row),
      (run t [] false locating).stdout = Text.Numeral.ofNat o ++ ['\n'] ∧
      text.lineNumberAt o = 3 ∧ s.region s.resolve = .ok (o, frame.stop) ∧
      s.rows frame = .top :: .code 3 ['b'] :: more := by
  intro t text config locating rendering r s
  have hsource : sourceText t [] ['f'] = .ok text := toOption_eq_some_iff.mp (by decide +kernel)
  have hconfig : Config.discover t [] [] = .ok config := toOption_eq_some_iff.mp (by decide +kernel)
  have hfits : (r.diagnostic text).HeaderFits config.headerWidth := by decide +kernel
  obtain ⟨hwords, hagrees⟩ := locate_agrees (n := 3) hsource hconfig false
  obtain ⟨-, hlocating, hrendering⟩ := hwords "+3".toList (Text.Utf8.encode "a\r\n\r\nb".toList)
    (by decide) rfl (by decide +kernel)
  have hlocating := hlocating (by decide)
  obtain ⟨hsame, -, -, hfound⟩ := hagrees _ _ false false r hlocating hrendering ⟨rfl, rfl, rfl, rfl, rfl⟩
  have hzero : (run t [] false locating).exitCode = 0 := by decide +kernel
  obtain ⟨o, frame, more, hprinted, hnumber, -, hregion, hrows, -⟩ := hfound hzero
  exact ⟨⟨hsource, hconfig, hfits⟩, ⟨hlocating, hrendering⟩, hzero, (hsame hfits).mp hzero, o, frame,
    more, hprinted, Int.ofNat_inj.mp hnumber, hregion, hrows⟩

/-- A line that is there is found, and cannot be shown below a header of this width. -/
theorem locate_disagrees :
    let t : FileTree :=
      { top := "/w".toList
        entries :=
          [(["friendly.toml".toList],
              .file (Text.Utf8.encode "[render]\nheader_width = 10000000000000000000".toList)),
            ([['f']], .file [97, 10])] }
    let locating : List Text := ["locate".toList, ['f'], ['1']]
    let rendering : List Text :=
      ["render".toList, ['f'], "--line-start".toList, ['1'], "--line-end".toList, ['1']]
    sourceText t [] ['f'] = .ok ['a', '\n'] ∧
    Config.discover t [] [] = .ok { headerWidth := Nat.pow 10 19 } ∧
    readWords t [] locating = .ok (false, .locate ['f'] 1) ∧
    readWords t [] rendering =
      .ok (false, .render { file := ['f'], lineStart := some 1, lineEnd := some 1 }) ∧
    (run t [] false locating).exitCode = 0 ∧ (run t [] false rendering).exitCode = 1 := by
  intro t locating rendering
  have hconfig : Config.discover t [] [] = .ok { headerWidth := Nat.pow 10 19 } :=
    toOption_eq_some_iff.mp (by decide +kernel)
  exact ⟨rfl, hconfig, rfl, rfl, by decide +kernel, by decide +kernel⟩

end Command

end Pinpoint

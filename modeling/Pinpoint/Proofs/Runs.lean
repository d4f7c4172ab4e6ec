import Pinpoint.Command.Run
import Pinpoint.Proofs.Assembly
import Pinpoint.Proofs.Requests
import Pinpoint.Proofs.Results
import Pinpoint.Proofs.Stripping

/-!
# The outcome of a run

A run prints or it fails, and never does both: without the log, one of the two
outputs is empty. What a call of `render` prints is the diagnostic that its options
ask for, and what it reports is why this diagnostic cannot be built. The command
adds nothing of its own but the removal of control sequences and a newline.

All numbers of a call can be written, so its snippet is drawn or refused. What is left
is the header: if the configuration asks for one that is too long, the run fails without
a report, be the snippet as it may.
-/

namespace Pinpoint

open Text.Ansi (strip escape)

namespace Diagnostic

theorem failsFirst_singleton_iff {s : Snippet} {index : Nat} {fault : Snippet.Fault} :
    FailsFirst [s] index fault ↔ index = 0 ∧ s.fault? = some fault := by
  constructor
  · rintro ⟨before, u, after, hsplit, rfl, -, hu⟩
    obtain ⟨rfl, hafter⟩ : before = [] ∧ u :: after = [s] := by
      cases before with
      | nil => exact ⟨rfl, hsplit.symm⟩
      | cons => simp at hsplit
    obtain ⟨rfl, -⟩ := List.cons.inj hafter
    exact ⟨rfl, Snippet.build_eq_error_iff.mp (hu false)⟩
  · rintro ⟨rfl, hfault⟩
    exact ⟨[], s, [], rfl, rfl, fun _ h => absurd h List.not_mem_nil,
      fun _ => Snippet.build_eq_error_iff.mpr hfault⟩

end Diagnostic

namespace Command

/-- A success reports nothing and a failure prints nothing. -/
def OneOutput (exitCode : Nat) (stdout report : Text) : Prop :=
  (exitCode = 0 → report = []) ∧ (exitCode ≠ 0 → stdout = [])

theorem oneOutput_success (stdout : Text) : OneOutput 0 stdout [] :=
  ⟨fun _ => rfl, fun hne => absurd rfl hne⟩

theorem oneOutput_failure (code : Nat) (report : Text) : OneOutput (code + 1) [] report :=
  ⟨fun hzero => absurd hzero (Nat.succ_ne_zero code), fun _ => rfl⟩

def Effect.OneOutput (e : Effect) : Prop :=
  Command.OneOutput e.exitCode e.stdout e.report

theorem oneOutput_configFailure (e : Config.Error) : (configFailure e).OneOutput := by
  unfold configFailure
  split
  · exact oneOutput_failure 0 _
  · exact oneOutput_failure 0 _

theorem oneOutput_buildFailure (log : List LogEntry) (e : Diagnostic.Error) :
    (buildFailure log e).OneOutput := by
  cases e <;> exact oneOutput_failure 0 _

theorem oneOutput_showSource (r : RenderRequest) (config : Config) (terminal : Bool)
    (log : List LogEntry) (text : Text) : (showSource r config terminal log text).OneOutput := by
  simp only [showSource]
  split
  · exact oneOutput_success _
  · exact oneOutput_buildFailure _ _

theorem oneOutput_render (t : FileTree) (directory : Path) (terminal : Bool) (r : RenderRequest) :
    (render t directory terminal r).OneOutput := by
  unfold render
  split
  · exact oneOutput_configFailure _
  · split
    · exact oneOutput_failure 0 _
    · exact oneOutput_showSource _ _ _ _ _

theorem oneOutput_locate (t : FileTree) (directory : Path) (file : Text) (line : Int) :
    (locate t directory file line).OneOutput := by
  unfold locate
  split
  · exact oneOutput_failure 0 _
  · split
    · exact oneOutput_success _
    · split
      · exact oneOutput_failure 0 _
      · exact oneOutput_failure 0 _

theorem oneOutput_perform (t : FileTree) (directory : Path) (terminal : Bool) (request : Request) :
    (perform t directory terminal request).OneOutput := by
  cases request with
  | help scope => exact oneOutput_success _
  | version => exact oneOutput_success _
  | render r => exact oneOutput_render t directory terminal r
  | locate file line => exact oneOutput_locate t directory file line

/-- Without the log a run writes to one output only, which its exit code tells. -/
theorem run_oneOutput (t : FileTree) (directory : Path) (terminal : Bool) {words : List Text}
    (h : ¬ AsksForLog words) :
    OneOutput (run t directory terminal words).exitCode (run t directory terminal words).stdout
      (run t directory terminal words).stderr := by
  unfold run
  split
  · exact oneOutput_failure 1 _
  · split
    · exact oneOutput_failure 0 _
    · exact oneOutput_failure 1 _
    · next verbose request hread =>
      cases verbose with
      | true => exact absurd (readWords_eq_ok_iff.mp hread).asksForLog h
      | false => exact oneOutput_perform t directory terminal request

/-- The diagnostic that a call asks for: one snippet of the file's text, and every
field as its own option says. -/
def Parsed.diagnostic (given : Parsed RenderOption) (file text : Text) : Diagnostic where
  severity := ((given.value? .severity).bind fun name => severities.lookup name).getD .error
  title := given.value? .title
  code := given.value? .code
  summary := given.value? .summary
  description := given.value? .description
  link := given.value? .docUrl
  snippets := [{
    text := text
    file := some file
    startIndex := (given.value? .indexStart).bind Text.Integer.ofText?
    stopIndex := (given.value? .indexEnd).bind Text.Integer.ofText?
    startLine := (given.value? .lineStart).bind Text.Integer.ofText?
    stopLine := (given.value? .lineEnd).bind Text.Integer.ofText?
    emphasis := ((given.value? .kind).bind Excerpt.Emphasis.ofName?).getD .error
    caption := given.value? .caption }]

/-- Whether a call shows color: its own option decides, or else the configuration. -/
def Parsed.showsColor (given : Parsed RenderOption) (config : Config) (terminal : Bool) : Bool :=
  (((given.value? .color).bind ColorMode.ofName?).getD config.color).enabled terminal

theorem diagnostic_ofGiven (given : Parsed RenderOption) (file text : Text) :
    (RenderRequest.ofGiven file given.value?).diagnostic text = given.diagnostic file text := rfl

theorem showsColor_ofGiven (given : Parsed RenderOption) (file : Text) (config : Config)
    (terminal : Bool) :
    ((RenderRequest.ofGiven file given.value?).color.getD config.color).enabled terminal =
      given.showsColor config terminal := rfl

/-- The outcome that prints a diagnostic. -/
def Outcome.printed (color : Bool) (shown : Text) : Outcome :=
  { stdout := (if color then shown else strip shown) ++ ['\n'] }

/-- The outcome that reports an error. -/
def Outcome.reported (message : Text) : Outcome :=
  { exitCode := 1, stderr := "error: ".toList ++ strip message ++ ['\n'] }

/-- The outcome of a failure that is not reported. -/
def Outcome.crashed (escape : Escape) : Outcome :=
  { exitCode := 1, escaped := some escape }

/-- The outcome of a diagnostic that cannot be built. -/
def Outcome.failed (error : Diagnostic.Error) : Outcome :=
  match error with
  | .snippet _ _ => .reported error.message
  | .read e => .crashed (.read e)
  | .tooLarge part => .crashed (.tooLarge part)

/-- The outcome of a source file that is not a text. -/
def Outcome.cannotRead (file reason : Text) : Outcome :=
  { exitCode := 1
    stderr := "error: cannot read ".toList ++ strip (file ++ ": ".toList ++ reason) ++ ['\n'] }

/-- The outcome of a request under a configuration, given what the source file reads as. -/
def RenderRequest.outcome (r : RenderRequest) (config : Config) (terminal : Bool) :
    Except Text Text → Outcome
  | .error reason => .cannotRead r.file reason
  | .ok text =>
    let color := (r.color.getD config.color).enabled terminal
    match (r.diagnostic text).build config.headerWidth color with
    | .ok shown => .printed color shown
    | .error error => .failed error

theorem strip_line (label message : Text) (hlabel : escape ∉ label) :
    strip (label ++ message ++ ['\n']) = label ++ strip message ++ ['\n'] := by
  rw [Text.Ansi.strip_newline, Text.Ansi.strip_notMem_append hlabel]
  rfl

theorem outcome_failure (log : List LogEntry) (message : Text) :
    (failure log message).outcome false = .reported message := by
  simp only [Effect.outcome, failure, Outcome.reported, strip_line "error: ".toList message (by decide)]
  rfl

theorem outcome_buildFailure (log : List LogEntry) (error : Diagnostic.Error) :
    (buildFailure log error).outcome false = .failed error := by
  cases error with
  | snippet index cause => exact outcome_failure log _
  | read error => rfl
  | tooLarge part => rfl

theorem outcome_sourceFailure (log : List LogEntry) (file reason : Text) :
    (sourceFailure log file reason).outcome false = .cannotRead file reason := by
  have hmessage : "cannot read ".toList ++ file ++ ": ".toList ++ reason =
      "cannot read ".toList ++ (file ++ ": ".toList ++ reason) := by
    simp only [List.append_assoc]
  rw [sourceFailure, outcome_failure, Outcome.reported, Outcome.cannotRead, hmessage,
    Text.Ansi.strip_notMem_append (by decide)]
  rfl

theorem outcome_success (log : List LogEntry) (color : Bool) (shown : Text) :
    Effect.outcome
        { log, stdout := if color then shown ++ ['\n'] else strip (shown ++ ['\n']) } false =
      .printed color shown := by
  cases color with
  | true => rfl
  | false =>
    have hline : strip (shown ++ ['\n']) = strip shown ++ ['\n'] := Text.Ansi.strip_newline shown []
    simp [Effect.outcome, Outcome.printed, hline]

theorem outcome_showSource (r : RenderRequest) (config : Config) (terminal : Bool)
    (log : List LogEntry) (text : Text) :
    (showSource r config terminal log text).outcome false = r.outcome config terminal (.ok text) := by
  simp only [showSource, RenderRequest.outcome]
  cases (r.diagnostic text).build config.headerWidth ((r.color.getD config.color).enabled terminal) with
  | error error => exact outcome_buildFailure _ _
  | ok shown => exact outcome_success _ _ _

section

variable {r : RenderRequest} {text : Text}

/-- The table alone decides about the snippet of a request whose numbers can be written. -/
theorem RenderRequest.IsShort.fault?_snippet (h : r.IsShort) (text : Text) :
    (r.snippet text).fault? = (r.snippet text).refusal?.map .refused :=
  Snippet.fault?_of_writes fun n hn => Snippet.canWrite_iff.mpr (Or.inr (h n hn))

/-- The diagnostic of such a request fails by its header, or else by its snippet. -/
theorem RenderRequest.IsShort.build_eq_error_iff (h : r.IsShort) {width : Int} {color : Bool}
    {error : Diagnostic.Error} :
    (r.diagnostic text).build width color = .error error ↔
      (¬ (r.diagnostic text).HeaderFits width ∧ error = .tooLarge .length) ∨
      (r.diagnostic text).HeaderFits width ∧
        ∃ cause, (r.snippet text).refusal? = some cause ∧ error = .snippet 0 cause := by
  rw [Diagnostic.build_eq_error_iff_failsFirst]
  refine or_congr_right (and_congr_right fun _ => ?_)
  have hone : (r.diagnostic text).snippets = [r.snippet text] := rfl
  simp only [hone, Diagnostic.failsFirst_singleton_iff, h.fault?_snippet, Option.map_eq_some_iff]
  constructor
  · rintro ⟨_, _, ⟨rfl, cause, hcause, rfl⟩, rfl⟩
    exact ⟨cause, hcause, rfl⟩
  · rintro ⟨cause, hcause, rfl⟩
    exact ⟨0, _, ⟨rfl, cause, hcause, rfl⟩, rfl⟩

variable {config : Config}

theorem outcome_of_not_fits (h : ¬ (r.diagnostic text).HeaderFits config.headerWidth)
    (terminal : Bool) : r.outcome config terminal (.ok text) = .crashed (.tooLarge .length) := by
  simp only [RenderRequest.outcome, Diagnostic.build_of_not_fits h]
  rfl

end

theorem sourceText_eq_ok_iff {t : FileTree} {directory : Path} {file text : Text} :
    sourceText t directory file = .ok text ↔
      ∃ bytes raw, t.read directory (FileTree.tidy file) = .ok bytes ∧
        Text.Utf8.decode bytes = .ok raw ∧ Text.Newline.universal raw = text := by
  unfold sourceText
  simp only [bind_eq_ok_iff, mapError_eq_ok_iff]
  constructor
  · rintro ⟨bytes, hbytes, raw, hraw, htext⟩
    exact ⟨bytes, raw, hbytes, hraw, Except.ok.inj htext⟩
  · rintro ⟨bytes, raw, hbytes, hraw, rfl⟩
    exact ⟨bytes, hbytes, raw, hraw, rfl⟩

section

variable {t : FileTree} {directory : Path} {words : List Text} {given : Parsed RenderOption}
  {file : Text}

theorem run_of_readWords {verbose : Bool} {request : Request} (terminal : Bool)
    (h : readWords t directory words = .ok (verbose, request)) :
    run t directory terminal words = (perform t directory terminal request).outcome verbose := by
  have hwords : words.isEmpty = false := by
    cases words with
    | nil => cases h
    | cons => rfl
  simp only [run, hwords, h]
  rfl

variable {config : Config}

theorem outcome_render_of_discover {r : RenderRequest} (terminal : Bool)
    (h : Config.discover t directory [] = .ok config) :
    (render t directory terminal r).outcome false =
      r.outcome config terminal (sourceText t directory r.file) := by
  obtain ⟨found, hfound, rfl⟩ := map_eq_ok_iff.mp h
  rw [render, hfound]
  cases hsource : sourceText t directory r.file with
  | error reason => exact outcome_sourceFailure _ _ _
  | ok text => exact outcome_showSource _ _ _ _ _

theorem run_of_configured (h : RenderCall t directory words given file)
    (hconfig : Config.discover t directory [] = .ok config) (terminal : Bool) :
    run t directory terminal words =
      (RenderRequest.ofGiven file given.value?).outcome config terminal (sourceText t directory file) := by
  have hread : readWords t directory words = .ok (false, .render (.ofGiven file given.value?)) :=
    readWords_eq_render_iff.mpr ⟨given, file, h, rfl⟩
  rw [run_of_readWords terminal hread]
  exact outcome_render_of_discover terminal hconfig

theorem run_of_unreadable (h : RenderCall t directory words given file)
    (hconfig : Config.discover t directory [] = .ok config) (terminal : Bool) {reason : Text}
    (hsource : sourceText t directory file = .error reason) :
    run t directory terminal words = .cannotRead file reason := by
  rw [run_of_configured h hconfig, hsource]
  rfl

theorem run_of_readable (h : RenderCall t directory words given file)
    (hconfig : Config.discover t directory [] = .ok config) (terminal : Bool) {text : Text}
    (hsource : sourceText t directory file = .ok text) :
    run t directory terminal words =
      match (given.diagnostic file text).build config.headerWidth (given.showsColor config terminal) with
      | .ok shown => .printed (given.showsColor config terminal) shown
      | .error error => .failed error := by
  rw [run_of_configured h hconfig, hsource, ← diagnostic_ofGiven, ← showsColor_ofGiven given file]
  rfl

end

/-- Without the log a run writes to one output only, which its exit code tells. The
words that are read as a request to render are the calls of `render`. Under a
configuration that loads, such a call reports that its file cannot be read; or it
prints the diagnostic of its options over the file's text, with exit code 0, exactly
if this diagnostic can be built, and otherwise fails with exit code 1. As long as the
header is not too long for the width of the configuration, it then reports why the
snippet is refused. A header that is too long is not reported. -/
theorem run_agrees (t : FileTree) (directory : Path) (terminal : Bool) :
    (∀ words, ¬ AsksForLog words →
      let outcome := run t directory terminal words
      (outcome.exitCode = 0 → outcome.stderr = []) ∧ (outcome.exitCode ≠ 0 → outcome.stdout = [])) ∧
    (∀ words, (∃ r, readWords t directory words = .ok (false, .render r)) ↔
      ∃ given file, RenderCall t directory words given file) ∧
    ∀ words given file config, RenderCall t directory words given file →
      Config.discover t directory [] = .ok config →
      let outcome := run t directory terminal words
      (∀ reason, sourceText t directory file = .error reason → outcome = .cannotRead file reason) ∧
      ∀ bytes raw, t.read directory (FileTree.tidy file) = .ok bytes → Text.Utf8.decode bytes = .ok raw →
        let color := given.showsColor config terminal
        let d := given.diagnostic file (Text.Newline.universal raw)
        let built := d.build config.headerWidth color
        (∀ shown, built = .ok shown → outcome = .printed color shown) ∧
        (d.HeaderFits config.headerWidth → ∀ error, built = .error error →
          outcome = .reported error.message ∧ ∃ cause, error = .snippet 0 cause) ∧
        (¬ d.HeaderFits config.headerWidth →
          built = .error (.tooLarge .length) ∧ outcome = .crashed (.tooLarge .length)) ∧
        (outcome.exitCode = 0 ↔ ∃ shown, built = .ok shown) ∧
        (outcome.exitCode = 1 ↔ ∃ error, built = .error error) := by
  refine ⟨fun words h => run_oneOutput t directory terminal h, fun words => ?_, ?_⟩
  · simp only [readWords_eq_render_iff]
    constructor
    · rintro ⟨-, given, file, hcall, -⟩
      exact ⟨given, file, hcall⟩
    · rintro ⟨given, file, hcall⟩
      exact ⟨_, given, file, hcall, rfl⟩
  · intro words given file config hcall hconfig outcome
    refine ⟨fun reason hsource => run_of_unreadable hcall hconfig terminal hsource, ?_⟩
    intro bytes raw hbytes hraw color d built
    have hrun : outcome = match built with
        | .ok shown => .printed color shown
        | .error error => .failed error :=
      run_of_readable hcall hconfig terminal
        (sourceText_eq_ok_iff.mpr ⟨bytes, raw, hbytes, hraw, rfl⟩)
    have hfails (error : Diagnostic.Error) : built = .error error ↔
        (¬ d.HeaderFits config.headerWidth ∧ error = .tooLarge .length) ∨
        d.HeaderFits config.headerWidth ∧ ∃ cause, _ ∧ error = .snippet 0 cause :=
      (RenderRequest.isShort_ofGiven file given.value?).build_eq_error_iff
    have hcause (error : Diagnostic.Error) (herror : built = .error error)
        (hfits : d.HeaderFits config.headerWidth) : ∃ cause, error = .snippet 0 cause := by
      rcases (hfails error).mp herror with ⟨hno, -⟩ | ⟨-, cause, -, rfl⟩
      · exact absurd hfits hno
      · exact ⟨cause, rfl⟩
    have hlong (hno : ¬ d.HeaderFits config.headerWidth) : built = .error (.tooLarge .length) :=
      (hfails _).mpr (Or.inl ⟨hno, rfl⟩)
    -- From here on a build is any value or error, and `hrun` says what comes of it.
    generalize outcome = outcome at hrun
    generalize built = built at hrun hcause hlong
    cases built with
    | ok shown =>
      obtain rfl : outcome = .printed color shown := hrun
      refine ⟨?_, ?_, ?_, ?_, ?_⟩
      · rintro _ ⟨⟩
        rfl
      · rintro _ _ ⟨⟩
      · intro hno
        cases hlong hno
      · exact iff_of_true rfl ⟨shown, rfl⟩
      · refine iff_of_false Nat.zero_ne_one ?_
        rintro ⟨_, ⟨⟩⟩
    | error error =>
      obtain rfl : outcome = .failed error := hrun
      have hcode : (Outcome.failed error).exitCode = 1 := by cases error <;> rfl
      refine ⟨?_, ?_, ?_, ?_, ?_⟩
      · rintro _ ⟨⟩
      · rintro hfits _ ⟨⟩
        obtain ⟨cause, rfl⟩ := hcause error rfl hfits
        exact ⟨rfl, cause, rfl⟩
      · intro hno
        obtain rfl := Except.error.inj (hlong hno)
        exact ⟨rfl, rfl⟩
      · rw [hcode]
        refine iff_of_false Nat.one_ne_zero ?_
        rintro ⟨_, ⟨⟩⟩
      · exact iff_of_true hcode ⟨error, rfl⟩

/-- A call without `--color` below a configuration that asks for color. -/
theorem run_agrees_configured :
    let t : FileTree :=
      { top := "/w".toList
        entries :=
          [(["friendly.toml".toList], .file (Text.Utf8.encode "render.color = 'always'".toList)),
            ([['f']], .file [97, 13, 10])] }
    let words : List Text := ["render".toList, "--line-start=1".toList, ['f'], "--line-end".toList, ['1']]
    let given : Parsed RenderOption :=
      { options := [(.lineStart, ['1']), (.lineEnd, ['1'])], positional := [['f']] }
    let config : Config := { color := .always }
    let outcome := run t [] false words
    (¬ AsksForLog words ∧ RenderCall t [] words given ['f'] ∧ Config.discover t [] [] = .ok config ∧
      t.read [] (FileTree.tidy ['f']) = .ok [97, 13, 10] ∧
      Text.Utf8.decode [97, 13, 10] = .ok ['a', '\r', '\n']) ∧
    outcome.exitCode = 0 ∧ outcome.stderr = [] ∧
    ∃ shown, (given.diagnostic ['f'] ['a', '\n']).build config.headerWidth true = .ok shown ∧
      outcome = .printed true shown := by
  intro t words given config outcome
  have hparsed : mainGrammar.parse words = .ok { positional := words } := rfl
  have hlog : ¬ AsksForLog words := by
    rintro ⟨parsed, hfound, hverbose⟩
    obtain rfl := Except.ok.inj (hparsed.symm.trans hfound)
    cases hverbose
  have hcall : RenderCall t [] words given ['f'] := by
    refine ⟨words.tail, hparsed, rfl, by decide, ?_, rfl, [97, 13, 10], rfl⟩
    intro option value hvalue
    cases option <;> cases hvalue <;> rfl
  have hconfig : Config.discover t [] [] = .ok config :=
    toOption_eq_some_iff.mp (by decide +kernel)
  have hbytes : t.read [] (FileTree.tidy ['f']) = .ok [97, 13, 10] := rfl
  have hdecoded : Text.Utf8.decode [97, 13, 10] = .ok ['a', '\r', '\n'] := rfl
  have hbuilt : ((given.diagnostic ['f'] ['a', '\n']).build config.headerWidth true).toOption.isSome := by
    decide +kernel
  obtain ⟨shown, hshown⟩ := Option.isSome_iff_exists.mp hbuilt
  rw [toOption_eq_some_iff] at hshown
  obtain ⟨honce, -, hagrees⟩ := run_agrees t [] false
  obtain ⟨hprinted, -, -, hcode, -⟩ :=
    (hagrees words given ['f'] config hcall hconfig).2 _ _ hbytes hdecoded
  have hzero : outcome.exitCode = 0 := hcode.mpr ⟨shown, hshown⟩
  exact ⟨⟨hlog, hcall, hconfig, hbytes, hdecoded⟩, hzero, (honce words hlog).1 hzero, shown, hshown,
    hprinted shown hshown⟩

/-- A snippet without positions is refused, and nothing is reported of it below this width. -/
theorem run_hides_refusal :
    let t : FileTree :=
      { top := "/w".toList
        entries :=
          [(["friendly.toml".toList],
              .file (Text.Utf8.encode "[render]\nheader_width = 10000000000000000000".toList)),
            ([['f']], .file [97, 10])] }
    let words : List Text := ["render".toList, ['f']]
    let r : RenderRequest := { file := ['f'] }
    let outcome := run t [] false words
    readWords t [] words = .ok (false, .render r) ∧
    Config.discover t [] [] = .ok { headerWidth := Nat.pow 10 19 } ∧
    sourceText t [] ['f'] = .ok ['a', '\n'] ∧
    (r.snippet ['a', '\n']).refusal? = some .startMissing ∧
    (r.diagnostic ['a', '\n']).build (Nat.pow 10 19) false = .error (.tooLarge .length) ∧
    outcome.exitCode = 1 ∧ outcome.stderr = [] ∧ outcome.escaped.isSome := by
  intro t words r outcome
  have hconfig : Config.discover t [] [] = .ok { headerWidth := Nat.pow 10 19 } :=
    toOption_eq_some_iff.mp (by decide +kernel)
  have houtcome : outcome.exitCode = 1 ∧ outcome.stderr = [] ∧ outcome.escaped.isSome := by
    decide +kernel
  exact ⟨rfl, hconfig, rfl, rfl, Diagnostic.build_of_not_fits (by decide +kernel) false, houtcome⟩

end Command

end Pinpoint

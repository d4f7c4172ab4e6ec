import Pinpoint.Proofs.Agreement
import Pinpoint.Proofs.ConfigFailures

/-!
# The log only observes

A verbose run of a command does what the quiet run does, and writes log lines in front of
what the quiet run reports. Which lines these are follows from where the run stops: a
search for a line logs one, a snippet logs both of its ends and then that it is drawn or
why it is not, and a configuration that is used is logged before all else. A header that
is too long stops the run before its snippet is looked at.

Of all entries only that of a configuration can show a number which is too large to be
written, for the words of a command line give none.
-/

namespace Pinpoint.Command

/-- What a log line begins with: the part of the program, and what it did. -/
def LogEntry.tag : LogEntry → Text
  | configLoaded _ _ => "friendly_errors.config: loaded config from ".toList
  | lineStart _ _ => "friendly_errors.resolver: line_start ".toList
  | lineEnd _ _ => "friendly_errors.resolver: line_end ".toList
  | rendering _ _ => "friendly_errors.snippet: rendering ".toList
  | snippetFailed index _ =>
    "friendly_errors.diagnostic: snippet ".toList ++ Text.Numeral.ofNat index ++ " failed: ".toList

/-- An entry is one piece of the log that begins with its tag and ends its line. -/
theorem LogEntry.exists_line_eq (entry : LogEntry) :
    ∃ rest, entry.line = entry.tag ++ rest ++ ['\n'] := by
  have hmessage : ∃ rest, entry.message = entry.tag ++ rest := by
    unfold message tag
    cases entry with
    | configLoaded path config =>
      simp only [List.append_assoc]
      exact ⟨_, rfl⟩
    | lineStart line offset =>
      simp only [List.append_assoc]
      exact ⟨_, rfl⟩
    | lineEnd line offset =>
      simp only [List.append_assoc]
      exact ⟨_, rfl⟩
    | rendering emphasis frame =>
      simp only [List.append_assoc]
      exact ⟨_, rfl⟩
    | snippetFailed index error => exact ⟨error.message, rfl⟩
  obtain ⟨rest, hrest⟩ := hmessage
  exact ⟨rest, by rw [line, hrest]⟩

theorem LogEntry.isWritable_configLoaded (path : Text) (config : Config) :
    (configLoaded path config).isWritable = Text.Numeral.isShort config.headerWidth := by
  rw [isWritable, numbers, List.all_cons, List.all_nil, Bool.and_true]

theorem logLines_append (log more : List LogEntry) :
    logLines (log ++ more) = logLines log ++ logLines more := by
  simp only [logLines, List.filter_append, List.flatMap_append]

theorem logLines_of_writable {log : List LogEntry} (h : ∀ entry ∈ log, entry.isWritable = true) :
    logLines log = log.flatMap (·.line) := by
  rw [logLines, List.filter_eq_self.mpr h]

theorem logged_nil {o : Outcome} (h : o.unlogged = []) : o.logged [] = o := by
  obtain ⟨exitCode, stdout, stderr, escaped, unlogged⟩ := o
  obtain rfl : unlogged = [] := h
  rfl

/-- The request behind the name of a command. -/
def namedRequest (t : FileTree) (directory : Path) (name : Text) (rest : List Text) :
    Except Misuse Request :=
  if name = "render".toList then (renderRequest t directory rest).mapError (⟨.render, ·⟩)
  else (locateRequest t directory rest).mapError (⟨.locate, ·⟩)

/-- The names of the commands. -/
def IsCommand (name : Text) : Prop :=
  name = "render".toList ∨ name = "locate".toList

section

variable (t : FileTree) (directory : Path) {name : Text} (rest : List Text) {request : Request}

theorem IsCommand.not_isOption (h : IsCommand name) : isOption name = false := by
  rcases h with rfl | rfl <;> decide

theorem readWords_of_parsed (hname : IsCommand name) {words : List Text} {parsed : Parsed MainOption}
    (hparsed : mainGrammar.parse words = .ok parsed) (heager : eagerRequest? parsed = none)
    (hpositional : parsed.positional = name :: rest) :
    readWords t directory words =
      (namedRequest t directory name rest).map (parsed.occurring.contains .verbose, ·) := by
  simp only [readWords, parseWords, hparsed, mapError_ok, bind, Except.bind, heager, hpositional,
    namedRequest]
  rcases hname with rfl | rfl
  · simp only [↓reduceIte]
    cases renderRequest t directory rest <;> rfl
  · simp only [show "locate".toList ≠ "render".toList by decide, ↓reduceIte]
    cases locateRequest t directory rest <;> rfl

/-- The option in front changes nothing but that the log is shown. -/
theorem readWords_quiet (hname : IsCommand name) :
    readWords t directory (name :: rest) = (namedRequest t directory name rest).map (false, ·) :=
  readWords_of_parsed t directory rest hname (parse_main_word hname.not_isOption rest) rfl rfl

theorem readWords_verbose (hname : IsCommand name) :
    readWords t directory ("-v".toList :: name :: rest) =
      (namedRequest t directory name rest).map (true, ·) := by
  have hparsed : mainGrammar.parse ("-v".toList :: name :: rest) =
      .ok { options := [(.verbose, [])], positional := name :: rest } := by
    show (mainGrammar.parse (name :: rest)).map (·.withOptions [(.verbose, [])]) = _
    rw [parse_main_word hname.not_isOption]
    rfl
  exact readWords_of_parsed t directory rest hname hparsed rfl rfl

variable {t directory rest}

theorem run_verbose_of_readWords (terminal : Bool) (hname : IsCommand name)
    (h : readWords t directory (name :: rest) = .ok (false, request)) :
    run t directory terminal ("-v".toList :: name :: rest) =
      (run t directory terminal (name :: rest)).logged (perform t directory terminal request).log := by
  have hquiet := readWords_quiet t directory rest hname
  rw [h] at hquiet
  obtain ⟨found, hfound, hrequest⟩ := map_eq_ok_iff.mp hquiet.symm
  obtain rfl : found = request := (Prod.mk.inj hrequest).2
  have hverbose : readWords t directory ("-v".toList :: name :: rest) = .ok (true, found) := by
    rw [readWords_verbose t directory rest hname, hfound]
    rfl
  rw [run_of_readWords terminal hverbose, run_of_readWords terminal h, outcome_eq_logged, if_pos rfl]

/-- Words that cannot be read are reported before anything is logged. -/
theorem run_verbose_of_misuse (terminal : Bool) (hname : IsCommand name) {misuse : Misuse}
    (h : namedRequest t directory name rest = .error misuse) :
    run t directory terminal ("-v".toList :: name :: rest) =
      (run t directory terminal (name :: rest)).logged [] := by
  have hquiet : readWords t directory (name :: rest) = .error misuse := by
    rw [readWords_quiet t directory rest hname, h]
    rfl
  have hverbose : readWords t directory ("-v".toList :: name :: rest) = .error misuse := by
    rw [readWords_verbose t directory rest hname, h]
    rfl
  have hunlogged : (run t directory terminal (name :: rest)).unlogged = [] := by
    simp only [run, hquiet]
    obtain ⟨scope, error⟩ := misuse
    cases error <;> rfl
  rw [logged_nil hunlogged, run, run, hquiet, hverbose]
  rfl

end

section

variable {t : FileTree} {directory : Path} {text : Text} {config : Config} {r : RenderRequest}

theorem locate_log {file : Text} (hsource : sourceText t directory file = .ok text) (line : Int) :
    (locate t directory file line).log = [.lineStart (some line) (.ofLine text (some line))] := by
  simp only [locate, hsource]
  cases text.lineStart? line with
  | some o => rfl
  | none => cases Text.write line <;> rfl

/-- A search for a line that succeeds has read the file and found the line. -/
theorem locate_exitCode_zero {file : Text} {line : Int}
    (h : (locate t directory file line).exitCode = 0) :
    ∃ text o, sourceText t directory file = .ok text ∧ text.lineStart? line = some o := by
  unfold locate at h
  split at h
  · cases h
  · next text hsource =>
    split at h
    · next o ho => exact ⟨text, o, hsource, ho⟩
    · split at h <;> cases h

/-- What a snippet logs once it is drawn. -/
theorem closingLog_drawn {s : Snippet} (h : s.fault? = none) :
    closingLog s = [.rendering s.emphasis s.ownFrame] := by
  obtain ⟨hdrawn, -⟩ := Snippet.fault?_eq_none_iff.mp h
  simp only [closingLog, Snippet.validate_resolve, hdrawn, Snippet.frame_of_drawn h]

theorem closingLog_refused {s : Snippet} {cause : Snippet.Error}
    (h : s.fault? = some (.refused cause)) : closingLog s = [.snippetFailed 0 cause] := by
  obtain ⟨hrefused, hwrites⟩ := Snippet.fault?_eq_refused_iff.mp h
  simp only [closingLog, Snippet.validate_resolve, hrefused, Snippet.refuse, Snippet.checkNumbers_eq,
    if_pos hwrites, bind, Except.bind]

theorem showSource_log (r : RenderRequest) (config : Config) (terminal : Bool) (log : List LogEntry)
    (text : Text) :
    (showSource r config terminal log text).log = log ++ buildLog (r.snippet text)
      (Diagnostic.header r.severity r.code r.title config.headerWidth
        ((r.color.getD config.color).enabled terminal)) := by
  simp only [showSource]
  split
  · rfl
  · next error _ => cases error <;> rfl

/-- A snippet that can be built with its header has logged both of its ends, and how it ended. -/
theorem showSource_log_of_fits (hshort : r.IsShort)
    (hfits : (r.diagnostic text).HeaderFits config.headerWidth) (terminal : Bool) (log : List LogEntry) :
    ∃ last,
      (showSource r config terminal log text).log = log ++ (resolutionLog (r.snippet text) ++ [last]) ∧
      (((showSource r config terminal log text).exitCode = 0 ∧ ∃ frame,
          (r.snippet text).frame (r.snippet text).resolve = .ok frame ∧ last = .rendering r.kind frame) ∨
        (showSource r config terminal log text).exitCode = 1 ∧ ∃ cause,
          (r.snippet text).refusal? = some cause ∧ last = .snippetFailed 0 cause) := by
  have hheader (color : Bool) :
      Diagnostic.header r.severity r.code r.title config.headerWidth color = .ok _ :=
    Diagnostic.header_of_fits hfits color
  have htable := hshort.fault?_snippet text
  rw [showSource_log, hheader, buildLog]
  cases hrefused : (r.snippet text).refusal? with
  | none =>
    rw [hrefused] at htable
    refine ⟨.rendering r.kind _, ?_, Or.inl ⟨?_, _, Snippet.frame_of_drawn htable, rfl⟩⟩
    · rw [closingLog_drawn htable]
      rfl
    · simp only [showSource, build_drawn hfits htable]
  | some cause =>
    rw [hrefused] at htable
    refine ⟨.snippetFailed 0 cause, ?_, Or.inr ⟨?_, cause, rfl, rfl⟩⟩
    · rw [closingLog_refused htable]
    · simp only [showSource, build_refused hfits htable]
      rfl

theorem showSource_log_of_not_fits (hno : ¬ (r.diagnostic text).HeaderFits config.headerWidth)
    (terminal : Bool) (log : List LogEntry) :
    (showSource r config terminal log text).log = log := by
  have hheader (color : Bool) :
      Diagnostic.header r.severity r.code r.title config.headerWidth color = .error .length :=
    Diagnostic.header_of_not_fits hno color
  rw [showSource_log, hheader, buildLog, List.append_nil]

theorem render_log (terminal : Bool) (hconfig : Config.discover t directory [] = .ok config)
    (hsource : sourceText t directory r.file = .ok text) :
    ∃ loaded, (loaded = [] ∨ ∃ path, loaded = [.configLoaded path config]) ∧
      render t directory terminal r = showSource r config terminal loaded text := by
  obtain ⟨found, hfound, rfl⟩ := map_eq_ok_iff.mp hconfig
  refine ⟨found.toList.map fun loaded => .configLoaded loaded.1 loaded.2, ?_, ?_⟩
  · cases found with
    | none => exact Or.inl rfl
    | some loaded => exact Or.inr ⟨loaded.1, rfl⟩
  · rw [render, hfound]
    simp only [hsource]

end

section

variable {t : FileTree} {directory : Path} {r : RenderRequest}

/-- Both ends of a snippet can be logged, if the numbers that it is given can be written. -/
theorem isWritable_resolutionLog (hshort : r.IsShort) (text : Text) :
    ∀ entry ∈ resolutionLog (r.snippet text), entry.isWritable = true := by
  have hlines : ∀ n ∈ r.lineStart.toList ++ r.lineEnd.toList, Text.Numeral.isShort n = true :=
    fun n hn => hshort n (List.mem_append_left _ hn)
  obtain ⟨hstart, hstop⟩ := List.forall_mem_append.mp hlines
  simp only [resolutionLog, List.forall_mem_cons, LogEntry.isWritable, List.all_eq_true]
  exact ⟨hstart, hstop, List.forall_mem_nil _⟩

theorem isWritable_buildLog (hshort : r.IsShort) (text : Text)
    (header : Except Text.TooLarge Text) :
    ∀ entry ∈ buildLog (r.snippet text) header, entry.isWritable = true := by
  have hclosing : ∀ entry ∈ closingLog (r.snippet text), entry.isWritable = true := by
    unfold closingLog
    split
    · exact List.forall_mem_singleton.mpr rfl
    · exact List.forall_mem_nil _
    · split
      · exact List.forall_mem_singleton.mpr rfl
      · exact List.forall_mem_nil _
  cases header with
  | error part => exact List.forall_mem_nil _
  | ok line => exact List.forall_mem_append.mpr ⟨isWritable_resolutionLog hshort text, hclosing⟩

/-- The entry is that of a configuration whose width is too large to be written. -/
def LogEntry.IsLongWidth (entry : LogEntry) : Prop :=
  ∃ path config, entry = .configLoaded path config ∧ Text.Numeral.isShort config.headerWidth = false

theorem isLongWidth_of_render (hshort : r.IsShort) (terminal : Bool) :
    ∀ entry ∈ (render t directory terminal r).log,
      entry.isWritable = false → entry.IsLongWidth := by
  have hloaded (found : Option (Text × Config)) :
      ∀ entry ∈ found.toList.map fun loaded => LogEntry.configLoaded loaded.1 loaded.2,
        entry.isWritable = false → entry.IsLongWidth := by
    intro entry hentry hunwritable
    obtain ⟨⟨path, config⟩, -, rfl⟩ := List.mem_map.mp hentry
    rw [LogEntry.isWritable_configLoaded] at hunwritable
    exact ⟨path, config, rfl, hunwritable⟩
  unfold render
  split
  · next error _ =>
    cases hreported : isReported error <;>
      simp [configFailure, hreported, failure, crash]
  · next found _ =>
    split
    · exact hloaded found
    · next text _ =>
      rw [showSource_log]
      refine List.forall_mem_append.mpr ⟨hloaded found, fun entry hentry hunwritable => ?_⟩
      rw [isWritable_buildLog hshort text _ entry hentry] at hunwritable
      cases hunwritable

/-- Whatever request was read, only such an entry leaves no line. -/
theorem isLongWidth_of_perform (terminal : Bool) {words : List Text} {verbose : Bool}
    {request : Request} (h : readWords t directory words = .ok (verbose, request)) :
    ∀ entry ∈ (perform t directory terminal request).log,
      entry.isWritable = false → entry.IsLongWidth := by
  have hshort := isShort_of_readWords h
  cases request with
  | help scope => exact List.forall_mem_nil _
  | version => exact List.forall_mem_nil _
  | render r => exact isLongWidth_of_render hshort terminal
  | locate file line =>
    have hwritten (offset : Snippet.LineOffset) :
        (LogEntry.lineStart (some line) offset).isWritable = true := by
      rw [LogEntry.isWritable, List.all_eq_true]
      exact hshort
    intro entry hentry hunwritable
    cases hsource : sourceText t directory file with
    | error reason =>
      simp only [perform, locate, hsource] at hentry
      cases hentry
    | ok text =>
      rw [perform, locate_log hsource, List.mem_singleton] at hentry
      rw [hentry, hwritten] at hunwritable
      cases hunwritable

theorem exists_logged (terminal : Bool) {name : Text} (hname : IsCommand name) (rest : List Text) :
    ∃ log, run t directory terminal ("-v".toList :: name :: rest) =
        (run t directory terminal (name :: rest)).logged log ∧
      ∀ entry ∈ log, entry.isWritable = false → entry.IsLongWidth := by
  cases h : namedRequest t directory name rest with
  | error misuse => exact ⟨[], run_verbose_of_misuse terminal hname h, List.forall_mem_nil _⟩
  | ok request =>
    have hread : readWords t directory (name :: rest) = .ok (false, request) := by
      rw [readWords_quiet t directory rest hname, h]
      rfl
    exact ⟨_, run_verbose_of_readWords terminal hname hread, isLongWidth_of_perform terminal hread⟩

end

/-- With the option in front a run of a command has the same exit code, standard output
and escaped error, and its error output is that of the quiet run behind log lines. Only the
width of a configuration can be too large for a line. A search for a line that succeeds logs
the line it found. A snippet whose configuration and source were read logs both of its ends,
and then that it is drawn, with exit code 0, or why it is not, unless its header is too long:
then it logs nothing. -/
theorem run_verbose (t : FileTree) (directory : Path) (terminal : Bool) {name : Text}
    (hname : IsCommand name) (rest : List Text) :
    let quiet := run t directory terminal (name :: rest)
    let verbose := run t directory terminal ("-v".toList :: name :: rest)
    (verbose.exitCode = quiet.exitCode ∧ verbose.stdout = quiet.stdout ∧
      verbose.escaped = quiet.escaped ∧
      ∃ log : List LogEntry, verbose.stderr = logLines log ++ quiet.stderr ∧
        verbose.unlogged = log.filter (!·.isWritable)) ∧
    (∀ entry ∈ verbose.unlogged, entry.IsLongWidth) ∧
    (∀ entry : LogEntry, ∃ rest, entry.line = entry.tag ++ rest ++ ['\n']) ∧
    (∀ scope, readWords t directory (name :: rest) = .ok (false, .help scope) → verbose = quiet) ∧
    (∀ file line, readWords t directory (name :: rest) = .ok (false, .locate file line) →
      quiet.exitCode = 0 → ∃ o : Nat,
        verbose.stderr = (LogEntry.lineStart (some line) (.resolved o)).line ++ quiet.stderr) ∧
    ∀ r config text, readWords t directory (name :: rest) = .ok (false, .render r) →
      Config.discover t directory [] = .ok config → sourceText t directory r.file = .ok text →
      let s := r.snippet text
      ∃ loaded : List LogEntry,
        (loaded = [] ∨ ∃ path, loaded = [.configLoaded path config]) ∧
        ((r.diagnostic text).HeaderFits config.headerWidth → ∃ last : LogEntry,
          verbose.stderr =
            logLines loaded ++ [.lineStart r.lineStart s.resolve.start, .lineEnd r.lineEnd s.resolve.stop,
              last].flatMap (·.line) ++ quiet.stderr ∧
          ((quiet.exitCode = 0 ∧ ∃ frame, s.frame s.resolve = .ok frame ∧ last = .rendering r.kind frame) ∨
            quiet.exitCode = 1 ∧ ∃ cause, s.refusal? = some cause ∧ last = .snippetFailed 0 cause)) ∧
        (¬ (r.diagnostic text).HeaderFits config.headerWidth →
          verbose.stderr = logLines loaded ∧ quiet = .crashed (.tooLarge .length)) := by
  intro quiet verbose
  obtain ⟨log, hlog, hlong⟩ : ∃ log, verbose = quiet.logged log ∧ _ :=
    exists_logged terminal hname rest
  refine ⟨?_, ?_, LogEntry.exists_line_eq, ?_, ?_, ?_⟩
  · rw [hlog]
    exact ⟨rfl, rfl, rfl, log, rfl, rfl⟩
  · rw [hlog]
    intro entry hentry
    obtain ⟨hmem, hunwritable⟩ := List.mem_filter.mp hentry
    exact hlong entry hmem ((Bool.not_eq_true' _).mp hunwritable)
  · intro scope hread
    have hverbose : verbose = quiet.logged [] := run_verbose_of_readWords terminal hname hread
    have hquiet : quiet = (perform t directory terminal (.help scope)).outcome false :=
      run_of_readWords terminal hread
    rw [hverbose, logged_nil (congrArg Outcome.unlogged hquiet)]
  · intro file line hread hzero
    have hquiet : quiet = (locate t directory file line).outcome false := run_of_readWords terminal hread
    have hverbose : verbose = quiet.logged (locate t directory file line).log :=
      run_verbose_of_readWords terminal hname hread
    rw [hquiet] at hzero
    obtain ⟨text, o, hsource, ho⟩ := locate_exitCode_zero hzero
    have hfound : Snippet.LineOffset.ofLine text (some line) = .resolved o := by
      rw [Snippet.LineOffset.ofLine, Option.bind_some, ho]
    have hwritten : (LogEntry.lineStart (some line) (.resolved o)).isWritable = true := by
      rw [LogEntry.isWritable, List.all_eq_true]
      exact isShort_of_readWords hread
    refine ⟨o, ?_⟩
    rw [hverbose, locate_log hsource, hfound, Outcome.logged,
      logLines_of_writable (List.forall_mem_singleton.mpr hwritten), List.flatMap_singleton]
  · intro r config text hread hconfig hsource s
    obtain ⟨loaded, hloaded, hrender⟩ := render_log terminal hconfig hsource
    have hshort : r.IsShort := isShort_of_readWords hread
    have hquiet : quiet = (render t directory terminal r).outcome false :=
      run_of_readWords terminal hread
    have hverbose : verbose = quiet.logged (render t directory terminal r).log :=
      run_verbose_of_readWords terminal hname hread
    refine ⟨loaded, hloaded, fun hfits => ?_, fun hno => ?_⟩
    · obtain ⟨last, hlog, hlast⟩ := showSource_log_of_fits hshort hfits terminal loaded
      have hwritten : last.isWritable = true := by
        rcases hlast with ⟨-, frame, -, rfl⟩ | ⟨-, cause, -, rfl⟩ <;> rfl
      have hbuilt : ∀ entry ∈ resolutionLog s ++ [last], entry.isWritable = true :=
        List.forall_mem_append.mpr
          ⟨isWritable_resolutionLog hshort text, List.forall_mem_singleton.mpr hwritten⟩
      refine ⟨last, ?_, ?_⟩
      · rw [hverbose, hrender, hlog, Outcome.logged, logLines_append, logLines_of_writable hbuilt]
        rfl
      · rw [hquiet, hrender]
        exact hlast
    · have hcrashed : quiet = .crashed (.tooLarge .length) := by
        rw [hquiet, outcome_render_of_discover terminal hconfig, hsource, outcome_of_not_fits hno]
      rw [hverbose, hrender, showSource_log_of_not_fits hno, hcrashed]
      exact ⟨List.append_nil _, rfl⟩

/-- A snippet whose last line is absent, below a configuration. -/
theorem run_verbose_refused :
    let t : FileTree :=
      { top := "/w".toList
        entries :=
          [(["friendly.toml".toList], .file (Text.Utf8.encode "render.color = 'never'".toList)),
            ([['f']], .file [97])] }
    let words : List Text := ["render".toList, ['f'], "--line-start=1".toList, "--line-end=2".toList]
    let r : RenderRequest := { file := ['f'], lineStart := some 1, lineEnd := some 2 }
    let config : Config := { color := .never }
    let quiet := run t [] false words
    let verbose := run t [] false ("-v".toList :: words)
    IsCommand "render".toList ∧ (r.diagnostic ['a']).HeaderFits config.headerWidth ∧
    quiet.exitCode = 1 ∧ verbose.exitCode = 1 ∧
    ∃ (loaded : List LogEntry) (cause : Snippet.Error),
      verbose.stderr =
        logLines loaded ++ [LogEntry.lineStart (some 1) (.resolved 0), .lineEnd (some 2) .invalid,
          .snippetFailed 0 cause].flatMap (·.line) ++ quiet.stderr := by
  intro t words r config quiet verbose
  have hname : IsCommand "render".toList := Or.inl rfl
  obtain ⟨⟨hcode, -⟩, -, -, -, -, hrender⟩ := run_verbose t [] false hname words.tail
  have hread : readWords t [] words = .ok (false, .render r) := rfl
  have hconfig : Config.discover t [] [] = .ok config := toOption_eq_some_iff.mp (by decide +kernel)
  have hfits : (r.diagnostic ['a']).HeaderFits config.headerWidth := by decide +kernel
  obtain ⟨loaded, -, hbuilt, -⟩ := hrender _ _ ['a'] hread hconfig rfl
  obtain ⟨last, hlog, hlast⟩ := hbuilt hfits
  have hfails : quiet.exitCode = 1 := by decide +kernel
  rcases hlast with ⟨hzero, -⟩ | ⟨-, cause, -, rfl⟩
  · exact absurd (hfails.symm.trans hzero) Nat.one_ne_zero
  · exact ⟨hname, hfits, hfails, hcode.trans hfails, loaded, cause, hlog⟩

/-- Below a header of this width neither end of a snippet is logged. -/
theorem run_verbose_skips_snippet :
    let t : FileTree :=
      { top := "/w".toList
        entries :=
          [(["friendly.toml".toList],
              .file (Text.Utf8.encode "[render]\nheader_width = 10000000000000000000".toList)),
            ([['f']], .file [97, 10])] }
    let words : List Text := ["render".toList, ['f']]
    let config : Config := { headerWidth := Nat.pow 10 19 }
    let verbose := run t [] false ("-v".toList :: words)
    readWords t [] words = .ok (false, .render { file := ['f'] }) ∧
    Config.discover t [] [] = .ok config ∧ sourceText t [] ['f'] = .ok ['a', '\n'] ∧
    verbose.stderr = (LogEntry.configLoaded "/w/friendly.toml".toList config).line := by
  intro t words config verbose
  have hconfig : Config.discover t [] [] = .ok config := toOption_eq_some_iff.mp (by decide +kernel)
  exact ⟨rfl, hconfig, rfl, by decide +kernel⟩

end Pinpoint.Command

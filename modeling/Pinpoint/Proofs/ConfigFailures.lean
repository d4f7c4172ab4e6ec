import Pinpoint.Proofs.Runs

/-!
# Configurations that cannot be used

Whatever bytes the nearest configuration file holds, a run of `render` uses them as
a configuration or reports what is wrong with them. There are two exceptions. A document
whose `render` is no table fails with an error of the kind that no command reports. And
a width may be taken over that leads to a header too long to be written, which comes out
only when the source has been read.

Tables that are nested about a thousand deep are shown in a message like any others. That
the host gives up on them is left out.
-/

namespace Pinpoint

namespace Config

theorem findSomeM?_eq_error {α β ε : Type} {f : α → Except ε (Option β)} {e : ε} {l : List α}
    (h : l.findSomeM? f = .error e) : ∃ a ∈ l, f a = .error e := by
  induction l with
  | nil => cases h
  | cons a more ih =>
    rw [List.findSomeM?_cons] at h
    rcases bind_eq_error_iff.mp h with h | ⟨found, -, h⟩
    · exact ⟨a, List.mem_cons_self, h⟩
    · cases found with
      | some b => cases h
      | none =>
        obtain ⟨b, hb, hfail⟩ := ih h
        exact ⟨b, List.mem_cons_of_mem _ hb, hfail⟩

/-- The error is that of a search, which has not looked into any file. -/
def Error.OfSearch (error : Error) : Prop :=
  (∃ name directory, error = .notFound name directory) ∨ ∃ e path, error = .unreadable e path

section

variable {t : FileTree} {directory : Path} {error : Error}

theorem ofSearch_fileAt? {path : Text} {location : FileTree.Location} {parts : List Text}
    (h : fileAt? t path location parts = .error error) : error.OfSearch := by
  obtain ⟨e, -, rfl⟩ := mapError_eq_error_iff.mp h
  exact Or.inr ⟨e, path, rfl⟩

theorem ofSearch_sourceIn? {name : Text} (h : sourceIn? t name directory = .error error) :
    error.OfSearch := by
  rcases bind_eq_error_iff.mp h with h | ⟨bytes?, -, h⟩
  · exact ofSearch_fileAt? h
  · cases h

theorem ofSearch_startDirectory {path : Path} (h : startDirectory t path = .error error) :
    error.OfSearch := by
  rcases bind_eq_error_iff.mp h with h | ⟨bytes?, -, h⟩
  · exact ofSearch_fileAt? h
  · cases bytes? <;> cases h

theorem ofSearch_find {start name : Text} (h : find t directory start name = .error error) :
    error.OfSearch := by
  unfold find at h
  split at h
  · cases h
    exact Or.inr ⟨_, _, rfl⟩
  · split at h
    · rcases bind_eq_error_iff.mp h with h | ⟨path, -, h⟩
      · exact ofSearch_startDirectory h
      · rcases bind_eq_error_iff.mp h with h | ⟨found, -, h⟩
        · obtain ⟨d, -, hd⟩ := findSomeM?_eq_error h
          exact ofSearch_sourceIn? hd
        · cases found with
          | some source => cases h
          | none =>
            cases h
            exact Or.inl ⟨_, _, rfl⟩
    · cases h
      exact Or.inl ⟨_, _, rfl⟩

end

theorem refusal_ne_notTable {report : Toml.Value → Error}
    (h : ∀ value other, report value ≠ .notTable other) (value other : Toml.Value) :
    refusal report value ≠ .notTable other := by
  unfold refusal
  split
  · exact h value other
  · exact Error.noConfusion

theorem colorOf_ne_notTable (path : Text) (render : Toml.Table) (value : Toml.Value) :
    colorOf path render ≠ .error (.notTable value) := by
  have hrefusal (other : Toml.Value) : refusal (.badColor path) other ≠ .notTable value :=
    refusal_ne_notTable (fun _ _ => Error.noConfusion) other value
  unfold colorOf
  intro h
  split at h
  · cases h
  · split at h
    · cases h
    · exact hrefusal _ (Except.error.inj h)
  · exact hrefusal _ (Except.error.inj h)

theorem widthOf_ne_notTable (path : Text) (render : Toml.Table) (value : Toml.Value) :
    widthOf path render ≠ .error (.notTable value) := by
  have hrefusal (other : Toml.Value) : refusal (.badWidth path) other ≠ .notTable value :=
    refusal_ne_notTable (fun _ _ => Error.noConfusion) other value
  unfold widthOf
  intro h
  split at h
  · cases h
  · split at h
    · cases h
    · exact hrefusal _ (Except.error.inj h)
  · exact hrefusal _ (Except.error.inj h)

theorem ofDocument_eq_notTable_iff {path : Text} {document : Toml.Table} {value : Toml.Value} :
    ofDocument path document = .error (.notTable value) ↔
      document.get? "render".toList = some value ∧ ∀ render, value ≠ .table render := by
  unfold ofDocument
  split
  · next hnone =>
    rw [hnone]
    simp
  · next render hrender =>
    rw [hrender]
    constructor
    · intro h
      rcases bind_eq_error_iff.mp h with h | ⟨color, -, h⟩
      · exact absurd h (colorOf_ne_notTable path render value)
      · rcases bind_eq_error_iff.mp h with h | ⟨width, -, h⟩
        · exact absurd h (widthOf_ne_notTable path render value)
        · cases h
    · rintro ⟨hvalue, hno⟩
      exact absurd (Option.some.inj hvalue).symm (hno render)
  · next other hno hother =>
    rw [hother]
    simp only [Except.error.injEq, Error.notTable.injEq, Option.some.injEq, iff_self_and]
    rintro rfl render rfl
    exact hno render rfl

/-- The bytes are a document in which `render` has this value, and the value is no table. -/
def RenderNoTable (bytes : List UInt8) (value : Toml.Value) : Prop :=
  ∃ text document, Text.Utf8.decode bytes = .ok text ∧ Toml.parse text = .ok document ∧
    document.get? "render".toList = some value ∧ ∀ render, value ≠ .table render

theorem ofBytes_eq_notTable_iff {path : Text} {bytes : List UInt8} {value : Toml.Value} :
    ofBytes path bytes = .error (.notTable value) ↔ RenderNoTable bytes value := by
  unfold ofBytes
  simp only [bind_eq_error_iff, mapError_eq_error_iff, mapError_eq_ok_iff, ofDocument_eq_notTable_iff,
    RenderNoTable]
  constructor
  · rintro (⟨fault, -, h⟩ | ⟨text, htext, ⟨failure, -, h⟩ | ⟨document, hdocument, h⟩⟩)
    · cases h
    · cases h
    · exact ⟨text, document, htext, hdocument, h⟩
  · rintro ⟨text, document, htext, hdocument, h⟩
    exact Or.inr ⟨text, htext, Or.inr ⟨document, hdocument, h⟩⟩

/-- The search ends at a file of this kind. -/
def NearestNoTable (t : FileTree) (directory : Path) (start : Text) (value : Toml.Value) : Prop :=
  ∃ source, find t directory start fileName = .ok source ∧ RenderNoTable source.bytes value

theorem nearest?_eq_notTable_iff {t : FileTree} {directory : Path} {start : Text}
    {value : Toml.Value} :
    nearest? t directory start = .error (.notTable value) ↔
      NearestNoTable t directory start value := by
  unfold nearest? NearestNoTable
  cases hfind : find t directory start fileName with
  | ok source => simp [map_eq_error_iff, ofBytes_eq_notTable_iff]
  | error error =>
    rcases ofSearch_find hfind with ⟨name, place, rfl⟩ | ⟨e, path, rfl⟩ <;> simp

end Config

namespace Command

/-- The same outcome with log lines in front of what it writes to the error output. -/
def Outcome.logged (o : Outcome) (log : List LogEntry) : Outcome :=
  { o with
    stderr := logLines log ++ o.stderr
    unlogged := log.filter (!·.isWritable) }

theorem outcome_eq_logged (e : Effect) (verbose : Bool) :
    e.outcome verbose = (e.outcome false).logged (if verbose then e.log else []) := by
  cases verbose <;> rfl

/-- Nothing escapes from a request whose numbers can be written, if its header can be, too. -/
theorem escaped_outcome {r : RenderRequest} (hshort : r.IsShort) {config : Config}
    {source : Except Text Text}
    (hfits : ∀ text, source = .ok text → (r.diagnostic text).HeaderFits config.headerWidth)
    (terminal : Bool) : (r.outcome config terminal source).escaped = none := by
  cases source with
  | error reason => rfl
  | ok text =>
    simp only [RenderRequest.outcome]
    split
    · rfl
    · next error herror =>
      rcases hshort.build_eq_error_iff.mp herror with ⟨hno, -⟩ | ⟨-, cause, -, rfl⟩
      · exact absurd (hfits text rfl) hno
      · rfl

/-- The outcome of a configuration whose `render` is this value and no table. -/
def Outcome.noTable (value : Toml.Value) : Outcome :=
  { exitCode := 1, escaped := some (.config (.notTable value)) }

theorem isReported_eq_false_iff {error : Config.Error} :
    isReported error = false ↔ ∃ value, error = .notTable value := by
  cases error <;> simp [isReported]

/-- A failure without a log is reported in the same way by a verbose run. -/
theorem outcome_failure_nil (message : Text) (verbose : Bool) :
    (failure [] message).outcome verbose = .reported message := by
  rw [outcome_eq_logged, outcome_failure]
  cases verbose <;> rfl

theorem outcome_configFailure (error : Config.Error) (verbose : Bool) :
    (∃ value, error = .notTable value ∧ (configFailure error).outcome verbose = .noTable value) ∨
      (∀ value, error ≠ .notTable value) ∧
        (configFailure error).outcome verbose = .reported error.message := by
  cases hreported : isReported error with
  | false =>
    obtain ⟨value, rfl⟩ := isReported_eq_false_iff.mp hreported
    refine Or.inl ⟨value, rfl, ?_⟩
    cases verbose <;> rfl
  | true =>
    refine Or.inr ⟨?_, ?_⟩
    · rintro value rfl
      cases hreported
    · rw [configFailure, if_pos hreported, outcome_failure_nil]

/-- Below the configuration that is used, the header of the request is too long. -/
def HeaderTooLong (t : FileTree) (directory : Path) (r : RenderRequest) : Prop :=
  ∃ config text, Config.discover t directory [] = .ok config ∧
    sourceText t directory r.file = .ok text ∧ ¬ (r.diagnostic text).HeaderFits config.headerWidth

/-- A run of `render` lets an error escape exactly if `render` in the nearest
configuration is no table, or if the header is too long in the width of the configuration.
Any other configuration, absent, not UTF-8, malformed or with values of any type, is used,
or it is reported with exit code 1 and nothing on the standard output. Only the log of a
configuration that is used stands in front of what is reported. -/
theorem run_config_outcome (terminal : Bool) {r : RenderRequest}
    (h : readWords t directory words = .ok (verbose, .render r)) :
    let outcome := run t directory terminal words
    (∀ value, Config.NearestNoTable t directory [] value → outcome = .noTable value) ∧
    (HeaderTooLong t directory r → ∃ log, (verbose = false → log = []) ∧
      outcome = (Outcome.crashed (.tooLarge .length)).logged log) ∧
    ((¬ ∃ value, Config.NearestNoTable t directory [] value) → ¬ HeaderTooLong t directory r →
      outcome.escaped = none ∧
      ((∃ config log, Config.discover t directory [] = .ok config ∧ (verbose = false → log = []) ∧
          outcome = (r.outcome config terminal (sourceText t directory r.file)).logged log) ∨
        ∃ error, Config.discover t directory [] = .error error ∧
          outcome = .reported error.message)) := by
  intro outcome
  have hrun : outcome = (render t directory terminal r).outcome verbose :=
    run_of_readWords terminal h
  cases hnearest : Config.nearest? t directory [] with
  | ok found =>
    have hdiscover : Config.discover t directory [] = .ok ((found.map (·.2)).getD {}) :=
      map_eq_ok_iff.mpr ⟨found, hnearest, rfl⟩
    rw [outcome_eq_logged, outcome_render_of_discover terminal hdiscover] at hrun
    have hlog : verbose = false → (if verbose then (render t directory terminal r).log else []) = [] := by
      rintro rfl
      rfl
    refine ⟨?_, ?_, ?_⟩
    · intro value hvalue
      rw [Config.nearest?_eq_notTable_iff.mpr hvalue] at hnearest
      cases hnearest
    · rintro ⟨config, text, hconfig, hsource, hno⟩
      obtain rfl := Except.ok.inj (hdiscover.symm.trans hconfig)
      rw [hsource, outcome_of_not_fits hno] at hrun
      exact ⟨_, hlog, hrun⟩
    · intro _ hfits
      refine ⟨?_, Or.inl ⟨_, _, hdiscover, hlog, hrun⟩⟩
      rw [hrun]
      have hshort : r.IsShort := isShort_of_readWords h
      refine escaped_outcome hshort (fun text hsource => ?_) terminal
      exact Decidable.not_not.mp fun hno => hfits ⟨_, text, hdiscover, hsource, hno⟩
  | error error =>
    have hdiscover : Config.discover t directory [] = .error error := map_eq_error_iff.mpr hnearest
    have hused : ¬ HeaderTooLong t directory r := by
      rintro ⟨config, -, hconfig, -⟩
      cases hdiscover.symm.trans hconfig
    rw [render, hnearest] at hrun
    refine ⟨?_, fun hlong => absurd hlong hused, ?_⟩
    · intro value hvalue
      rw [Config.nearest?_eq_notTable_iff.mpr hvalue] at hnearest
      cases hnearest
      rcases outcome_configFailure (.notTable value) verbose with ⟨_, ⟨⟩, hfailure⟩ | ⟨hother, -⟩
      · exact hrun.trans hfailure
      · exact absurd rfl (hother value)
    · intro hnone _
      rcases outcome_configFailure error verbose with ⟨value, rfl, -⟩ | ⟨-, hfailure⟩
      · exact absurd ⟨value, Config.nearest?_eq_notTable_iff.mp hnearest⟩ hnone
      · rw [show outcome = .reported error.message from hrun.trans hfailure]
        exact ⟨rfl, Or.inr ⟨error, hdiscover, rfl⟩⟩

/-- A verbose call below a configuration whose color is an array. -/
theorem run_config_outcome_array :
    let t : FileTree :=
      { top := "/w".toList
        entries :=
          [(["friendly.toml".toList], .file (Text.Utf8.encode "render = {color = [1]}".toList)),
            ([['f']], .file [97])] }
    let words : List Text := ["-v".toList, "render".toList, ['f']]
    (readWords t [] words = .ok (true, .render { file := ['f'] }) ∧
      (¬ ∃ value, Config.NearestNoTable t [] [] value) ∧ ¬ HeaderTooLong t [] { file := ['f'] }) ∧
    (run t [] false words).escaped = none ∧
    run t [] false words =
      .reported "/w/friendly.toml: render.color must be one of auto, always, never (got [1])".toList := by
  intro t words
  have hread : readWords t [] words = .ok (true, .render { file := ['f'] }) := rfl
  have hbad : (match Config.discover t [] [] with
      | .error error => isReported error && error.message =
          "/w/friendly.toml: render.color must be one of auto, always, never (got [1])".toList
      | .ok _ => false) = true := by
    decide +kernel
  have hnone : ¬ ∃ value, Config.NearestNoTable t [] [] value := by
    rintro ⟨value, hvalue⟩
    have hdiscover : Config.discover t [] [] = .error (.notTable value) :=
      map_eq_error_iff.mpr (Config.nearest?_eq_notTable_iff.mpr hvalue)
    rw [hdiscover] at hbad
    cases hbad
  have hfits : ¬ HeaderTooLong t [] { file := ['f'] } := by
    rintro ⟨config, -, hconfig, -⟩
    rw [hconfig] at hbad
    cases hbad
  obtain ⟨-, -, hused⟩ := run_config_outcome false hread
  obtain ⟨hescaped, ⟨config, -, hdiscover, -⟩ | ⟨error, hdiscover, hrun⟩⟩ := hused hnone hfits
  · rw [hdiscover] at hbad
    cases hbad
  · rw [hdiscover, Bool.and_eq_true, decide_eq_true_iff] at hbad
    rw [hbad.2] at hrun
    exact ⟨⟨hread, hnone, hfits⟩, hescaped, hrun⟩

/-- A number in the place of the table escapes. -/
theorem run_escapes_number :
    let t : FileTree :=
      { top := "/w".toList
        entries :=
          [(["friendly.toml".toList], .file (Text.Utf8.encode "render = 5".toList)),
            ([['f']], .file [97])] }
    let words : List Text := ["render".toList, ['f'], "--line-start=1".toList, "--line-end=1".toList]
    ((readWords t [] words).toOption.isSome) ∧ (run t [] false words).escaped.isSome ∧
      (run t [] false words).stderr = [] := by
  decide +kernel

end Command

end Pinpoint

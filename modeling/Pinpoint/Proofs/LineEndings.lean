import Pinpoint.Proofs.Nearest
import Pinpoint.Proofs.Runs
import Pinpoint.Proofs.WrittenTexts

/-!
# Line endings of source files

A run looks at a source file in two ways only: it asks whether there is a file, and it
reads the file as a text. So contents that are read as the same text give the same run,
unless the file is a configuration, which is read in another way. The line endings of a
source file are such contents.
-/

namespace Pinpoint

namespace Command

theorem sourceText_eq (t : FileTree) (directory : Path) (file : Text) :
    sourceText t directory file =
      (t.read directory (FileTree.tidy file)).mapError (·.message (FileTree.tidy file)) >>=
        fun bytes => (Text.ofBytes bytes).mapError (·.message) := by
  have hbytes (bytes : List UInt8) :
      (do return Text.Newline.universal (← (Text.Utf8.decode bytes).mapError (·.message)) :
        Except Text Text) = (Text.ofBytes bytes).mapError (·.message) := by
    rw [Text.ofBytes]
    cases Text.Utf8.decode bytes <;> rfl
  simp only [sourceText, hbytes]

section

variable {t u : FileTree} {p : Path} {old new : List UInt8} (hu : t.Rewritten u p old new)
include hu

theorem fileArgument_rewritten (directory : Path) (positional : List Text) :
    fileArgument u directory positional = fileArgument t directory positional := by
  cases positional with
  | nil => rfl
  | cons path rest =>
    rcases hu.stat_eq_or directory path with hsame | ⟨hold, hnew⟩
    · simp only [fileArgument, hsame]
    · simp only [fileArgument, hold, hnew]

/-- What a command line asks for does not depend on what the files hold. -/
theorem readWords_rewritten (directory : Path) (words : List Text) :
    readWords u directory words = readWords t directory words := by
  have hfile : fileArgument u directory = fileArgument t directory :=
    funext (fileArgument_rewritten hu directory)
  simp only [readWords, renderRequest, locateRequest, hfile]

theorem sourceText_rewritten (htext : Text.ofBytes new = Text.ofBytes old) (directory : Path)
    (file : Text) : sourceText u directory file = sourceText t directory file := by
  rw [sourceText_eq, sourceText_eq]
  rcases hu.read_eq_or directory (FileTree.tidy file) with hsame | ⟨hold, hnew⟩
  · rw [hsame]
  · simp only [hold, hnew, mapError_ok, bind, Except.bind, htext]

theorem perform_rewritten (hp : p.getLast? ≠ some Config.fileName)
    (htext : Text.ofBytes new = Text.ofBytes old) (directory : Path) (terminal : Bool)
    (request : Request) : perform u directory terminal request = perform t directory terminal request := by
  have hconfig : Config.nearest? u directory [] = Config.nearest? t directory [] := by
    rw [Config.nearest?, Config.nearest?, Config.find_rewritten_of_ne hu (by decide) hp]
  cases request with
  | help scope => rfl
  | version => rfl
  | render r => simp only [perform, render, hconfig, sourceText_rewritten hu htext]
  | locate file line => simp only [perform, locate, sourceText_rewritten hu htext]

/-- Contents that are read as the same text make no difference to a run. -/
theorem run_rewritten (hp : p.getLast? ≠ some Config.fileName)
    (htext : Text.ofBytes new = Text.ofBytes old) (directory : Path) (terminal : Bool)
    (words : List Text) : run u directory terminal words = run t directory terminal words := by
  simp only [run, readWords_rewritten hu, perform_rewritten hu hp htext]

end

/-- A text without carriage returns may be written to a source file with any line ending:
every run has the same outcome as if the text were written as it is, because wherever the
file is read, it is read as this text. -/
theorem run_lineEnding (t : FileTree) (directory : Path) (terminal : Bool) {p : Path}
    (hp : p.getLast? ≠ some Config.fileName) {text : Text} (htext : '\r' ∉ text)
    (ending : Text.Newline.Ending) :
    let written := Text.Utf8.encode (Text.Newline.withEnding ending text)
    (∀ words, run (t.place p (.file written)) directory terminal words =
      run (t.place p (.file (Text.Utf8.encode text))) directory terminal words) ∧
    ∀ file, (t.place p (.file written)).read directory (FileTree.tidy file) = .ok written →
      sourceText (t.place p (.file written)) directory file = .ok text := by
  intro written
  have hwritten : Text.ofBytes written = .ok text := Text.ofBytes_written htext ending
  have hplain : Text.ofBytes (Text.Utf8.encode text) = .ok text := by
    rw [Text.ofBytes, Text.Utf8.decode_encode, Except.map, Text.Newline.universal_eq_self htext]
  constructor
  · exact fun words => run_rewritten (FileTree.rewritten_place t p _ _) hp
      (hwritten.trans hplain.symm) directory terminal words
  · intro file hread
    rw [sourceText_eq, hread]
    simp only [mapError_ok, bind, Except.bind, hwritten]

/-- A blank line between others, in a verbose run below a configuration. -/
theorem run_lineEnding_blank :
    let t : FileTree :=
      { top := "/w".toList
        entries := [(["friendly.toml".toList], .file (Text.Utf8.encode "render.color = 'always'".toList))] }
    let text : Text := ['a', '\n', '\n', 'b', '\n']
    let words : List Text :=
      ["-v".toList, "render".toList, ['f'], "--line-start=1".toList, "--line-end=3".toList]
    let outcome := run (t.place [['f']] (.file (Text.Utf8.encode text))) [] false words
    ([['f']].getLast? ≠ some Config.fileName ∧ '\r' ∉ text) ∧
    (outcome.exitCode = 0 ∧ outcome.stdout ≠ []) ∧
    run (t.place [['f']] (.file [97, 13, 13, 98, 13])) [] false words = outcome ∧
    run (t.place [['f']] (.file [97, 13, 10, 13, 10, 98, 13, 10])) [] false words = outcome ∧
    sourceText (t.place [['f']] (.file [97, 13, 13, 98, 13])) [] ['f'] = .ok text := by
  intro t text words outcome
  have hp : [['f']].getLast? ≠ some Config.fileName := by decide
  have htext : '\r' ∉ text := by decide
  obtain ⟨hreturns, hread⟩ := run_lineEnding t [] false hp htext .carriageReturn
  obtain ⟨hboth, -⟩ := run_lineEnding t [] false hp htext .both
  have houtcome : outcome.exitCode = 0 ∧ outcome.stdout ≠ [] := by decide +kernel
  exact ⟨⟨hp, htext⟩, houtcome, hreturns words, hboth words, hread ['f'] rfl⟩

end Command

end Pinpoint

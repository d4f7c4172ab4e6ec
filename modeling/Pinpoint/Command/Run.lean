import Pinpoint.Command.Log
import Pinpoint.Command.Request
import Pinpoint.Config.Discovery
import Pinpoint.Text.Newline

/-!
# Running a command line

A run is a function of the file tree, the working directory, the kind of output
and the words. Its outcome is an exit code and what was written to the two
output streams. Three failures are not reported but escape: a configuration whose
`render` is no table, a file argument with a zero byte, and whatever is too large to
be written, which for a command line can only be the header in a width that the
configuration asks for. A premature read would escape too, but never happens.

Error reports and uncolored output are free of escape sequences; log lines are
written as they are. A log entry that cannot be written is not fatal: it is kept
apart, and what the logging of the host makes of it is left open.
-/

namespace Pinpoint.Command

/-- A failure that is not reported. -/
inductive Escape
  | config (error : Config.Error)
  | file (error : FileTree.LookupError) (path : Text)
  | read (error : Snippet.ReadError)
  | tooLarge (part : Text.TooLarge)

def Escape.message : Escape → Text
  | config error => error.message
  | file error path => error.message path
  | read error => error.message
  | tooLarge part => part.message

structure Outcome where
  exitCode : Nat := 0
  stdout : Text := []
  stderr : Text := []
  escaped : Option Escape := none
  /-- Log entries that left no line on `stderr`. -/
  unlogged : List LogEntry := []

/-- The outcome of a request before it is known whether the log is shown. -/
structure Effect where
  log : List LogEntry := []
  exitCode : Nat := 0
  stdout : Text := []
  report : Text := []
  escaped : Option Escape := none

/-- The lines that a log leaves. -/
def logLines (log : List LogEntry) : Text :=
  (log.filter (·.isWritable)).flatMap (·.line)

def Effect.outcome (e : Effect) (verbose : Bool) : Outcome where
  exitCode := e.exitCode
  stdout := e.stdout
  stderr := (if verbose then logLines e.log else []) ++ e.report
  escaped := e.escaped
  unlogged := if verbose then e.log.filter (!·.isWritable) else []

/-- The request failed for a reason that is reported. -/
def failure (log : List LogEntry) (message : Text) : Effect where
  log := log
  exitCode := 1
  report := Text.Ansi.strip ("error: ".toList ++ message ++ ['\n'])

/-- The request failed for a reason that is not reported. -/
def crash (log : List LogEntry) (escape : Escape) : Effect where
  log := log
  exitCode := 1
  escaped := some escape

/-- Whether a command catches the error and reports it. -/
def isReported : Config.Error → Bool
  | .notTable _ => false
  | _ => true

def configFailure (e : Config.Error) : Effect :=
  if isReported e then failure [] e.message else crash [] (.config e)

/-- The text of a source file, its line ends made newlines, or why it cannot be read. -/
def sourceText (t : FileTree) (directory : Path) (file : Text) : Except Text Text := do
  let path := FileTree.tidy file
  let bytes ← (t.read directory path).mapError (·.message path)
  let text ← (Text.Utf8.decode bytes).mapError (·.message)
  return Text.Newline.universal text

def sourceFailure (log : List LogEntry) (file reason : Text) : Effect :=
  failure log ("cannot read ".toList ++ file ++ ": ".toList ++ reason)

def RenderRequest.snippet (r : RenderRequest) (text : Text) : Snippet where
  text := text
  file := some r.file
  startIndex := r.indexStart
  stopIndex := r.indexEnd
  startLine := r.lineStart
  stopLine := r.lineEnd
  emphasis := r.kind
  caption := r.caption

def RenderRequest.diagnostic (r : RenderRequest) (text : Text) : Diagnostic where
  severity := r.severity
  title := r.title
  code := r.code
  summary := r.summary
  description := r.description
  link := r.link
  snippets := [r.snippet text]

/-- What resolving a snippet logs. -/
def resolutionLog (s : Snippet) : List LogEntry :=
  [.lineStart s.startLine s.resolve.start, .lineEnd s.stopLine s.resolve.stop]

/-- What is logged of a snippet once it is resolved: the frame that it is drawn in, or why
it is refused. -/
def closingLog (s : Snippet) : List LogEntry :=
  match s.validate s.resolve with
  | .error (.refused cause) => [.snippetFailed 0 cause]
  | .error _ => []
  | .ok () =>
    match s.frame s.resolve with
    | .ok frame => [.rendering s.emphasis frame]
    | .error _ => []

/-- What building the diagnostic of one snippet logs: nothing if its header fails. -/
def buildLog (s : Snippet) (header : Except Text.TooLarge Text) : List LogEntry :=
  match header with
  | .ok _ => resolutionLog s ++ closingLog s
  | .error _ => []

/-- Only a snippet that is refused is reported. -/
def buildFailure (log : List LogEntry) (e : Diagnostic.Error) : Effect :=
  match e with
  | .snippet _ _ => failure log e.message
  | .read error => crash log (.read error)
  | .tooLarge part => crash log (.tooLarge part)

/-- Shows a request for a text that was read, under a configuration. -/
def showSource (r : RenderRequest) (config : Config) (terminal : Bool) (log : List LogEntry) (text : Text) :
    Effect :=
  let color := (r.color.getD config.color).enabled terminal
  let d := r.diagnostic text
  let log := log ++
    buildLog (r.snippet text) (Diagnostic.header d.severity d.code d.title config.headerWidth color)
  match d.build config.headerWidth color with
  | .ok shown =>
    let shown := shown ++ ['\n']
    { log, stdout := if color then shown else Text.Ansi.strip shown }
  | .error e => buildFailure log e

/-- The configuration is loaded before the source is read. -/
def render (t : FileTree) (directory : Path) (terminal : Bool) (r : RenderRequest) : Effect :=
  match Config.nearest? t directory [] with
  | .error e => configFailure e
  | .ok found =>
    let log := found.toList.map fun (path, config) => .configLoaded path config
    match sourceText t directory r.file with
    | .error reason => sourceFailure log r.file reason
    | .ok text => showSource r ((found.map (·.2)).getD {}) terminal log text

def locate (t : FileTree) (directory : Path) (file : Text) (line : Int) : Effect :=
  match sourceText t directory file with
  | .error reason => sourceFailure [] file reason
  | .ok text =>
    let log := [.lineStart (some line) (.ofLine text (some line))]
    match text.lineStart? line with
    | some offset => { log, stdout := Text.Numeral.ofNat offset ++ ['\n'] }
    | none =>
      match Text.write line with
      | .ok number => failure log ("line ".toList ++ number ++ " is out of range".toList)
      | .error part => crash log (.tooLarge part)

def perform (t : FileTree) (directory : Path) (terminal : Bool) : Request → Effect
  | .help scope => { stdout := scope.help }
  | .version => { stdout := version }
  | .render r => render t directory terminal r
  | .locate file line => locate t directory file line

/-- Runs a command line. Without any word the help is an error. -/
def run (t : FileTree) (directory : Path) (terminal : Bool) (words : List Text) : Outcome :=
  if words.isEmpty then { exitCode := 2, stderr := Scope.main.help }
  else
    match readWords t directory words with
    | .error ⟨_, .pathUnusable error path⟩ => { exitCode := 1, escaped := some (.file error path) }
    | .error misuse => { exitCode := 2, stderr := misuse.report }
    | .ok (verbose, request) => (perform t directory terminal request).outcome verbose

end Pinpoint.Command

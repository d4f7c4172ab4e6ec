import Pinpoint.Command.Usage
import Pinpoint.Config.Basic
import Pinpoint.Diagnostic.Basic
import Pinpoint.Text.Integer

/-!
# Requests

A command line is read into a request in two steps: the words are parsed by the
grammar of their command, then the values are checked, the options in the order
of their first occurrence with their last value, then the arguments. A request
for help or for the version wins over everything that is checked later.

A file argument has to name an existing file of the tree. The check of one that
holds a zero byte does not come to an end, and nothing after it is checked.
-/

namespace Pinpoint.Command

inductive MainOption
  | version
  | verbose
  | help
deriving DecidableEq, Repr

def mainGrammar : Grammar MainOption where
  long := [("--version".toList, .version), ("--verbose".toList, .verbose), ("--help".toList, .help)]
  short := [('v', .verbose)]
  takesValue := fun _ => false
  interspersed := false

inductive RenderOption
  | lineStart
  | lineEnd
  | indexStart
  | indexEnd
  | kind
  | severity
  | caption
  | title
  | code
  | summary
  | description
  | docUrl
  | color
  | help
deriving DecidableEq, Repr

namespace RenderOption

def all : List RenderOption :=
  [lineStart, lineEnd, indexStart, indexEnd, kind, severity, caption, title, code, summary,
    description, docUrl, color, help]

def name : RenderOption → Text
  | lineStart => "--line-start".toList
  | lineEnd => "--line-end".toList
  | indexStart => "--index-start".toList
  | indexEnd => "--index-end".toList
  | kind => "--kind".toList
  | severity => "--severity".toList
  | caption => "--caption".toList
  | title => "--title".toList
  | code => "--code".toList
  | summary => "--summary".toList
  | description => "--description".toList
  | docUrl => "--doc-url".toList
  | color => "--color".toList
  | help => "--help".toList

end RenderOption

def renderGrammar : Grammar RenderOption where
  long := RenderOption.all.map fun option => (option.name, option)
  short := []
  takesValue := (· ≠ .help)
  interspersed := true

inductive LocateOption
  | help
deriving DecidableEq, Repr

def locateGrammar : Grammar LocateOption where
  long := [("--help".toList, .help)]
  short := []
  takesValue := fun _ => false
  interspersed := true

/-- What `render` is asked to show. -/
structure RenderRequest where
  file : Text := []
  lineStart : Option Int := none
  lineEnd : Option Int := none
  indexStart : Option Int := none
  indexEnd : Option Int := none
  kind : Excerpt.Emphasis := .error
  severity : Diagnostic.Severity := .error
  caption : Option Text := none
  title : Option Text := none
  code : Option Text := none
  summary : Option Text := none
  description : Option Text := none
  link : Option Text := none
  color : Option ColorMode := none
deriving DecidableEq, Repr

/-- Severities by the names that the command line has for them. -/
def severities : List (Text × Diagnostic.Severity) :=
  [("error".toList, .error), ("warning".toList, .warning), ("improvement".toList, .improvement),
    ("code-style".toList, .codeStyle)]

def integer (parameter value : Text) : Except UsageError Int :=
  match Text.Integer.ofText? value with
  | some n => .ok n
  | none => .error (.valueInvalid parameter (.notInteger value))

def choice {α : Type} (parameter value : Text) (choices : List (Text × α)) : Except UsageError α :=
  match choices.lookup value with
  | some a => .ok a
  | none => .error (.valueInvalid parameter (.notChoice value (choices.map (·.1))))

/-- The request with one option set to a value. -/
def RenderRequest.set (r : RenderRequest) (option : RenderOption) (value : Text) :
    Except UsageError RenderRequest :=
  match option with
  | .lineStart => (integer option.name value).map fun n => { r with lineStart := some n }
  | .lineEnd => (integer option.name value).map fun n => { r with lineEnd := some n }
  | .indexStart => (integer option.name value).map fun n => { r with indexStart := some n }
  | .indexEnd => (integer option.name value).map fun n => { r with indexEnd := some n }
  | .kind =>
    (choice option.name value (Excerpt.Emphasis.all.map fun e => (e.name, e))).map fun e =>
      { r with kind := e }
  | .severity => (choice option.name value severities).map fun s => { r with severity := s }
  | .color =>
    (choice option.name value (ColorMode.all.map fun m => (m.name, m))).map fun m =>
      { r with color := some m }
  | .caption => .ok { r with caption := some value }
  | .title => .ok { r with title := some value }
  | .code => .ok { r with code := some value }
  | .summary => .ok { r with summary := some value }
  | .description => .ok { r with description := some value }
  | .docUrl => .ok { r with link := some value }
  | .help => .ok r

inductive Request
  | help (scope : Scope)
  | version
  | render (request : RenderRequest)
  | locate (file : Text) (line : Int)
deriving DecidableEq, Repr

/-- The first positional word as the path of an existing file. -/
def fileArgument (t : FileTree) (directory : Path) : List Text → Except UsageError (Text × List Text)
  | [] => .error (.argumentMissing "FILE".toList)
  | path :: rest =>
    match t.stat directory path with
    | .ok (.file _) => .ok (path, rest)
    | .ok .directory => .error (.valueInvalid "FILE".toList (.fileIsDirectory path))
    | .error .zeroByte => .error (.pathUnusable .zeroByte path)
    | .error _ => .error (.valueInvalid "FILE".toList (.fileAbsent path))

def noMore (rest : List Text) : Except UsageError Unit :=
  if rest.isEmpty then .ok () else .error (.argumentsUnexpected rest)

def parseWords {α : Type} (g : Grammar α) (words : List Text) : Except UsageError (Parsed α) :=
  (g.parse words).mapError .words

def renderRequest (t : FileTree) (directory : Path) (words : List Text) : Except UsageError Request := do
  let parsed ← parseWords renderGrammar words
  if parsed.occurring.contains .help then return .help .render
  let r ← parsed.occurring.foldlM (fun (r : RenderRequest) option =>
    r.set option ((parsed.value? option).getD [])) {}
  let (file, rest) ← fileArgument t directory parsed.positional
  noMore rest
  return .render { r with file }

def locateRequest (t : FileTree) (directory : Path) (words : List Text) : Except UsageError Request := do
  let parsed ← parseWords locateGrammar words
  if parsed.occurring.contains .help then return .help .locate
  let (file, rest) ← fileArgument t directory parsed.positional
  match rest with
  | [] => .error (.argumentMissing "LINE".toList)
  | word :: rest => do
    let line ← integer "LINE".toList word
    noMore rest
    return .locate file line

/-- The request of the first option that asks for one, whatever else is written. -/
def eagerRequest? (parsed : Parsed MainOption) : Option Request :=
  parsed.occurring.findSome? fun
    | .help => some (.help .main)
    | .version => some .version
    | .verbose => none

/-- A command line with at least one word, as a request and whether it is verbose. An unknown
command name is first read once more as options, so that `-- --help` asks for help. -/
def readWords (t : FileTree) (directory : Path) (words : List Text) : Except Misuse (Bool × Request) := do
  let parsed ← (parseWords mainGrammar words).mapError (⟨.main, ·⟩)
  match eagerRequest? parsed with
  | some request => return (false, request)
  | none =>
    let verbose := parsed.occurring.contains .verbose
    match parsed.positional with
    | [] => .error ⟨.main, .commandMissing⟩
    | name :: rest =>
      if name = "render".toList then
        return (verbose, ← (renderRequest t directory rest).mapError (⟨.render, ·⟩))
      else if name = "locate".toList then
        return (verbose, ← (locateRequest t directory rest).mapError (⟨.locate, ·⟩))
      else do
        let again ← (parseWords mainGrammar (name :: rest)).mapError (⟨.main, ·⟩)
        match eagerRequest? again with
        | some request => return (false, request)
        | none => .error ⟨.main, .commandUnknown name⟩

end Pinpoint.Command

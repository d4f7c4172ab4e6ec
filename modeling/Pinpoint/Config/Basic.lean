import Pinpoint.Diagnostic.Header
import Pinpoint.FileTree.Basic
import Pinpoint.Text.Utf8
import Pinpoint.Toml.Document
import Pinpoint.Toml.Literal

/-!
# Configuration

The table `render` of a document sets the color mode and the header width; all
else is ignored, and what is absent keeps its default. A bad color is reported
before a bad width. The report shows the value; if that cannot be shown, this is
all that is reported.
-/

namespace Pinpoint

inductive ColorMode
  | auto
  | always
  | never
deriving DecidableEq, Repr

namespace ColorMode

def name : ColorMode → Text
  | auto => "auto".toList
  | always => "always".toList
  | never => "never".toList

def all : List ColorMode := [auto, always, never]

def ofName? (name : Text) : Option ColorMode :=
  all.find? (·.name = name)

/-- Whether output is colored when it goes to a terminal or elsewhere. -/
def enabled (mode : ColorMode) (terminal : Bool) : Bool :=
  match mode with
  | auto => terminal
  | always => true
  | never => false

end ColorMode

structure Config where
  color : ColorMode := .auto
  headerWidth : Nat := Diagnostic.defaultWidth
deriving DecidableEq, Repr

namespace Config

def fileName : Text := "friendly.toml".toList

inductive Error
  | notFound (name directory : Text)
  | unreadable (error : FileTree.LookupError) (path : Text)
  | undecodable (fault : Text.Utf8.Fault)
  | malformed (error : Toml.Error)
  | badColor (path : Text) (value : Toml.Value)
  | badWidth (path : Text) (value : Toml.Value)
  | notShowable (value : Toml.Value)
  | notTable (value : Toml.Value)

def Error.message : Error → Text
  | notFound name directory =>
    "no ".toList ++ name ++ " in ".toList ++ directory ++ " or any parent directory".toList
  | unreadable error path => error.message path
  | undecodable fault => fault.message
  | malformed error => error.message
  | badColor path value =>
    path ++ ": render.color must be one of auto, always, never (got ".toList ++ value.literal ++ [')']
  | badWidth path value =>
    path ++ ": render.header_width must be a positive integer (got ".toList ++ value.literal ++ [')']
  | notShowable _ => Text.TooLarge.message .numeral
  | notTable value => '\'' :: value.kindName ++ "' object has no attribute 'get'".toList

/-- The refusal of a value, given how it is reported when it can be shown. That the host gives
up on showing tables which are nested about a thousand deep is left out. -/
def refusal (report : Toml.Value → Error) (value : Toml.Value) : Error :=
  if value.isShowable then report value else .notShowable value

/-- The color mode of the table `render`. -/
def colorOf (path : Text) (render : Toml.Table) : Except Error ColorMode :=
  match render.get? "color".toList with
  | none => .ok .auto
  | some (.string name) =>
    match ColorMode.ofName? name with
    | some mode => .ok mode
    | none => .error (refusal (.badColor path) (.string name))
  | some value => .error (refusal (.badColor path) value)

/-- The header width of the table `render`, a positive integer. -/
def widthOf (path : Text) (render : Toml.Table) : Except Error Nat :=
  match render.get? "header_width".toList with
  | none => .ok Diagnostic.defaultWidth
  | some (.integer width) =>
    if 1 ≤ width then .ok width.toNat else .error (refusal (.badWidth path) (.integer width))
  | some value => .error (refusal (.badWidth path) value)

/-- The configuration in a document; the path is only for messages. -/
def ofDocument (path : Text) (document : Toml.Table) : Except Error Config :=
  match document.get? "render".toList with
  | none => .ok {}
  | some (.table render) => do
    let color ← colorOf path render
    let headerWidth ← widthOf path render
    return { color, headerWidth }
  | some value => .error (.notTable value)

/-- The configuration in the bytes of a file. -/
def ofBytes (path : Text) (bytes : List UInt8) : Except Error Config := do
  let text ← (Text.Utf8.decode bytes).mapError .undecodable
  let document ← (Toml.parse text).mapError .malformed
  ofDocument path document

end Config

end Pinpoint

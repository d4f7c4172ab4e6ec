import Pinpoint.Config.Basic
import Pinpoint.Diagnostic.Basic

/-!
# Log lines

A verbose run logs what it resolved, one line for each step, with the part of
the program that the line comes from in front. An entry that shows a number which
is too large to be written leaves no line.
-/

namespace Pinpoint.Command

inductive LogEntry
  | configLoaded (path : Text) (config : Config)
  | lineStart (line : Option Int) (offset : Snippet.LineOffset)
  | lineEnd (line : Option Int) (offset : Snippet.LineOffset)
  | rendering (emphasis : Excerpt.Emphasis) (frame : Snippet.Frame)
  | snippetFailed (index : Nat) (error : Snippet.Error)
deriving DecidableEq, Repr

/-- The numbers that are written for the entry. Others count what is in a text, or are part
of a message that was there before. -/
def LogEntry.numbers : LogEntry → List Int
  | configLoaded _ config => [config.headerWidth]
  | lineStart line _ => line.toList
  | lineEnd line _ => line.toList
  | rendering _ _ => []
  | snippetFailed _ _ => []

def LogEntry.isWritable (entry : LogEntry) : Bool :=
  entry.numbers.all Text.Numeral.isShort

def offsetLabel : Snippet.LineOffset → Text
  | .unresolved => "Unresolved()".toList
  | .invalid => "Invalid()".toList
  | .resolved offset => "Resolved(offset=".toList ++ Text.Numeral.ofInt offset ++ [')']

def colorLabel (mode : ColorMode) : Text :=
  (match mode with
    | .auto => "<ColorMode.AUTO: '".toList
    | .always => "<ColorMode.ALWAYS: '".toList
    | .never => "<ColorMode.NEVER: '".toList) ++ mode.name ++ "'>".toList

def configLabel (config : Config) : Text :=
  "FriendlyConfig(render=RenderConfig(color=".toList ++ colorLabel config.color ++
    ", header_width=".toList ++ Text.Numeral.ofNat config.headerWidth ++ "))".toList

def LogEntry.message : LogEntry → Text
  | configLoaded path config =>
    "friendly_errors.config: loaded config from ".toList ++ path ++ ": ".toList ++ configLabel config
  | lineStart line offset =>
    "friendly_errors.resolver: line_start ".toList ++ Snippet.lineLabel line ++
      " resolved to ".toList ++ offsetLabel offset
  | lineEnd line offset =>
    "friendly_errors.resolver: line_end ".toList ++ Snippet.lineLabel line ++
      " resolved to ".toList ++ offsetLabel offset
  | rendering emphasis frame =>
    "friendly_errors.snippet: rendering ".toList ++ emphasis.name ++ " snippet over [".toList ++
      Text.Numeral.ofNat frame.start ++ ", ".toList ++ Text.Numeral.ofNat frame.stop ++
      ") with indent ".toList ++ Text.Numeral.ofNat frame.indent
  | snippetFailed index error =>
    "friendly_errors.diagnostic: snippet ".toList ++ Text.Numeral.ofNat index ++ " failed: ".toList ++
      error.message

def LogEntry.line (entry : LogEntry) : Text :=
  entry.message ++ ['\n']

end Pinpoint.Command

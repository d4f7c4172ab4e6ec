import Pinpoint.Command.Grammar
import Pinpoint.FileTree.Basic
import Pinpoint.Text.Ansi
import Pinpoint.Text.Quoted

/-!
# Usage and help

The program has a main command and two subcommands, each with its usage line and
its help. An error in the words of a command line names the command it belongs
to; errors about the value of an option stand without the usage. A path that
cannot be looked up at all is no error in the words and is not reported here.
-/

namespace Pinpoint.Command

/-- The command that a message is about. -/
inductive Scope
  | main
  | render
  | locate
deriving DecidableEq, Repr

def unlines (lines : List String) : Text :=
  lines.flatMap fun line => line.toList ++ ['\n']

def Scope.path : Scope → Text
  | main => "friendly-errors".toList
  | render => "friendly-errors render".toList
  | locate => "friendly-errors locate".toList

def Scope.usage (scope : Scope) : Text :=
  "Usage: ".toList ++ scope.path ++ (match scope with
    | main => " [OPTIONS] COMMAND [ARGS]...\n".toList
    | render => " [OPTIONS] FILE\n".toList
    | locate => " [OPTIONS] FILE LINE\n".toList)

def Scope.help (scope : Scope) : Text :=
  scope.usage ++ (match scope with
    | main => unlines [
        "",
        "  Render compiler-style diagnostics for a region of a source file.",
        "",
        "Options:",
        "  --version      Show the version and exit.",
        "  -v, --verbose  Log resolution details to stderr.",
        "  --help         Show this message and exit.",
        "",
        "Commands:",
        "  locate  Print the character offset at which LINE of FILE starts.",
        "  render  Print a diagnostic pointing at a region of FILE."]
    | render => unlines [
        "",
        "  Print a diagnostic pointing at a region of FILE.",
        "",
        "Options:",
        "  --line-start INTEGER            First line of the region (1-based).",
        "  --line-end INTEGER              Last line of the region (1-based).",
        "  --index-start INTEGER           Start character offset.",
        "  --index-end INTEGER             End character offset (exclusive).",
        "  --kind [error|warning|info]     Underline style of the highlighted region.",
        "  --severity [error|warning|improvement|code-style]",
        "                                  Severity shown in the header.",
        "  --caption TEXT                  Caption shown next to the region.",
        "  --title TEXT                    Header title.",
        "  --code TEXT                     Error code, e.g. E0001.",
        "  --summary TEXT",
        "  --description TEXT",
        "  --doc-url TEXT                  Link printed at the end of the message.",
        "  --color [auto|always|never]     Override the color mode from friendly.toml.",
        "  --help                          Show this message and exit."]
    | locate => unlines [
        "",
        "  Print the character offset at which LINE of FILE starts.",
        "",
        "Options:",
        "  --help  Show this message and exit."])

def version : Text := "friendly-errors, version 0.1.0\n".toList

/-- What is wrong with the value of a parameter. -/
inductive ValueError
  | notInteger (value : Text)
  | notChoice (value : Text) (choices : List Text)
  | fileAbsent (path : Text)
  | fileIsDirectory (path : Text)
deriving DecidableEq, Repr

def ValueError.message : ValueError → Text
  | notInteger value => Text.Quoted.encode value ++ " is not a valid integer.".toList
  | notChoice value choices =>
    Text.Quoted.encode value ++ " is not one of ".toList ++
      ", ".toList.intercalate (choices.map Text.Quoted.encode) ++ ['.']
  | fileAbsent path => "File ".toList ++ Text.Quoted.encode path ++ " does not exist.".toList
  | fileIsDirectory path => "File ".toList ++ Text.Quoted.encode path ++ " is a directory.".toList

inductive UsageError
  | words (error : ParseError)
  | commandMissing
  | commandUnknown (name : Text)
  | argumentMissing (name : Text)
  | valueInvalid (parameter : Text) (error : ValueError)
  | argumentsUnexpected (words : List Text)
  | pathUnusable (error : FileTree.LookupError) (path : Text)
deriving DecidableEq, Repr

def ParseError.message : ParseError → Text
  | unknownOption name => "No such option ".toList ++ Text.Quoted.encode name ++ ['.']
  | valueMissing name => "Option ".toList ++ Text.Quoted.encode name ++ " requires an argument.".toList
  | valueUnexpected name => "Option ".toList ++ Text.Quoted.encode name ++ " does not take a value.".toList

def UsageError.message : UsageError → Text
  | words error => error.message
  | commandMissing => "Missing command.".toList
  | commandUnknown name => "No such command ".toList ++ Text.Quoted.encode name ++ ['.']
  | argumentMissing name => "Missing argument '".toList ++ name ++ "'.".toList
  | valueInvalid parameter error =>
    "Invalid value for '".toList ++ parameter ++ "': ".toList ++ error.message
  | argumentsUnexpected extra =>
    (if extra.length = 1 then "Got unexpected extra argument (".toList
      else "Got unexpected extra arguments (".toList) ++ [' '].intercalate extra ++ [')']
  | pathUnusable error path => error.message path

def UsageError.showsUsage : UsageError → Bool
  | words (.valueMissing _) => false
  | words (.valueUnexpected _) => false
  | _ => true

/-- An error with the command it belongs to. -/
structure Misuse where
  scope : Scope
  error : UsageError
deriving DecidableEq, Repr

/-- The usage with a hint, where it is shown, and the message without escape sequences. -/
def Misuse.report (m : Misuse) : Text :=
  (if m.error.showsUsage then
    m.scope.usage ++ "Try '".toList ++ m.scope.path ++ " --help' for help.\n\n".toList
  else []) ++ Text.Ansi.strip ("Error: ".toList ++ m.error.message ++ ['\n'])

end Pinpoint.Command

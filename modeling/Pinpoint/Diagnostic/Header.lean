import Pinpoint.Text.Ansi
import Pinpoint.Text.Limit

/-!
# Headers

A header names the severity, an error code and a title on one line that is
filled with dashes up to a width. Only the label is painted, and color does not
count towards the width. Any width is accepted, but not every run of dashes can be
written.
-/

namespace Pinpoint.Diagnostic

inductive Severity
  | error
  | warning
  | improvement
  | codeStyle
deriving DecidableEq, Repr

def Severity.label : Severity → Text
  | .error => "Error".toList
  | .warning => "Warning".toList
  | .improvement => "Improvement".toList
  | .codeStyle => "Code style".toList

def Severity.all : List Severity := [.error, .warning, .improvement, .codeStyle]

def Severity.ofLabel? (label : Text) : Option Severity :=
  all.find? (·.label = label)

def Severity.style : Severity → Text.Style
  | .error => .boldRed
  | .warning => .boldYellow
  | .improvement => .boldCyan
  | .codeStyle => .boldCyan

def defaultWidth : Nat := 80

/-- The severity after three dashes, and the code in parentheses. -/
def headerLabel (severity : Severity) (code : Option Text) : Text :=
  "--- ".toList ++ severity.label ++ (match code with
    | some code => '(' :: code ++ [')']
    | none => [])

/-- What separates the label from the dashes: the title, or a blank. -/
def headerTitle (title : Option Text) : Text :=
  match title with
  | some title => ": ".toList ++ title ++ [' ']
  | none => [' ']

/-- How many dashes fill a header up to a width; none if the number is negative. -/
def headerDashes (severity : Severity) (code title : Option Text) (width : Int) : Int :=
  width - (headerLabel severity code).length - (headerTitle title).length

/-- The text of a header of any width. -/
def headerLine (severity : Severity) (code title : Option Text) (width : Int) (color : Bool) : Text :=
  Text.paint color severity.style (headerLabel severity code) ++ headerTitle title ++
    List.replicate (headerDashes severity code title width).toNat '-'

def header (severity : Severity) (code title : Option Text) (width : Int) (color : Bool) :
    Except Text.TooLarge Text := do
  Text.checkLength (headerDashes severity code title width)
  return headerLine severity code title width color

end Pinpoint.Diagnostic

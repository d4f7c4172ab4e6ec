import Pinpoint.Excerpt.Row
import Pinpoint.Highlight.Line

/-!
# Printing an excerpt

Each row starts with the gutter: a label aligned to the right and a bar. A code
row without code ends at its bar. Color changes the gutter, the markers and the
code, never the rows themselves.

`print` is the text of an excerpt for any indent; `render` gives this text unless
the gutter is too wide to be written.
-/

namespace Pinpoint.Excerpt

/-- How much weight the marked region has. -/
inductive Emphasis
  | error
  | warning
  | info
deriving DecidableEq, Repr

def Emphasis.name : Emphasis → Text
  | .error => "error".toList
  | .warning => "warning".toList
  | .info => "info".toList

def Emphasis.all : List Emphasis := [.error, .warning, .info]

def Emphasis.ofName? (name : Text) : Option Emphasis :=
  all.find? (·.name = name)

def Emphasis.marker : Emphasis → Char
  | .error => '^'
  | .warning => '~'
  | .info => '-'

def Emphasis.style : Emphasis → Text.Style
  | .error => .boldRed
  | .warning => .boldYellow
  | .info => .boldCyan

/-- What a printed row depends on besides the row. -/
structure Look where
  width : Nat
  emphasis : Emphasis := .error
  file : Option Text := none
  color : Bool := false
deriving DecidableEq, Repr

def Look.gutter (look : Look) (label : Text) : Text :=
  Text.paint look.color .boldBlue (Text.alignRight look.width label ++ " |".toList)

def Look.code (look : Look) (source : Text) : Text :=
  if look.color then Highlight.line look.file source else source

def Look.row (look : Look) : Row → Text
  | .top => look.gutter []
  | .code number source =>
    let code := look.code source
    look.gutter (Text.Numeral.ofNat number) ++ (if code.isEmpty then [] else ' ' :: code)
  | .mark padding count =>
    look.gutter [] ++ ' ' :: padding ++
      Text.paint look.color look.emphasis.style (List.replicate count look.emphasis.marker)

def Look.rows (look : Look) (rows : List Row) : Text :=
  ['\n'].intercalate (rows.map look.row) ++ ['\n']

/-- The text of an excerpt around a region. -/
def print (text : Text) (start stop indent : Int) (emphasis : Emphasis) (file : Option Text)
    (color : Bool) : Text :=
  let look : Look := { width := numberWidth text start stop indent, emphasis, file, color }
  look.rows (rows text start stop)

/-- The gutter comes first, so nothing of a region is printed when it is too wide. -/
def render (text : Text) (start stop indent : Int) (emphasis : Emphasis) (file : Option Text)
    (color : Bool) : Except Text.TooLarge Text := do
  Text.checkWidth (indent - 2).toNat
  return print text start stop indent emphasis file color

theorem render_of_le {indent : Int} (h : indent - 2 ≤ Text.maxLength) (text : Text) (start stop : Int)
    (emphasis : Emphasis) (file : Option Text) (color : Bool) :
    render text start stop indent emphasis file color =
      .ok (print text start stop indent emphasis file color) := by
  rw [render, Text.checkWidth_of_le (Int.toNat_le.mpr h)]
  rfl

theorem render_of_not_le {indent : Int} (h : ¬ indent - 2 ≤ Text.maxLength) (text : Text)
    (start stop : Int) (emphasis : Emphasis) (file : Option Text) (color : Bool) :
    render text start stop indent emphasis file color =
      .error (if Text.Numeral.isShort (indent - 2) then .width else .numeral) := by
  have hcolumns : ((indent - 2).toNat : Int) = indent - 2 := by omega
  rw [render, Text.checkWidth_of_not_le (mt Int.toNat_le.mp h), hcolumns]
  rfl

end Pinpoint.Excerpt

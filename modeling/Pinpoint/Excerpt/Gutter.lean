import Pinpoint.Text.Ansi
import Pinpoint.Text.Limit

/-!
# The gutter and what stands beside it

The gutter is as wide as the largest offset needs, and never narrower than
`minIndent`. The location and the caption of a snippet are aligned with it; both
vanish when they have nothing to say.

What these lines hold is said apart from whether they can be written.
-/

namespace Pinpoint.Excerpt

open Text (TooLarge)

def minIndent : Nat := 4

def largest (offsets : List Int) : Int :=
  offsets.max?.getD 0

/-- One more than the digits of the largest offset, and at least `minIndent`. -/
def indentWidth (offsets : List Int) : Nat :=
  max (Text.Numeral.length (largest offsets) + 1) minIndent

/-- The digits of the largest offset are counted on its numeral. -/
def indentSize (offsets : List Int) : Except TooLarge Nat := do
  let digits ← Text.digitCount (largest offsets)
  return max (digits + 1) minIndent

/-- The fields that are present, separated by colons, on a line of their own. -/
def locationLine (indent : Int) (file : Option Text) (line index : Option Int) : Text :=
  let fields := file.toList ++ line.toList.map Text.Numeral.ofInt ++ index.toList.map Text.Numeral.ofInt
  if fields.isEmpty then []
  else Text.blanks indent.toNat ++ [':'].intercalate fields ++ ['\n']

def location (indent : Int) (file : Option Text) (line index : Option Int) : Except TooLarge Text := do
  (line.toList ++ index.toList).forM Text.checkNumber
  if file.isSome || line.isSome || index.isSome then Text.checkLength indent
  return locationLine indent file line index

def captionLine (indent : Int) (caption : Option Text) (color : Bool) : Text :=
  match caption with
  | none => []
  | some c =>
    Text.blanks (indent - 2).toNat ++ Text.paint color .boldBlue "-->".toList ++ ' ' :: c ++ ['\n']

def caption (indent : Int) (caption : Option Text) (color : Bool) : Except TooLarge Text := do
  if caption.isSome then Text.checkLength (indent - 2)
  return captionLine indent caption color

end Pinpoint.Excerpt

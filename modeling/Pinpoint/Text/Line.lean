import Pinpoint.Text.Basic

/-!
# Lines of a text

Only a newline ends a line, and the newline belongs to the line that it ends. A
text that ends with a newline has no further, empty line. Lines are numbered
from 1 and offsets from 0.

`lineStart?` searches, `lineCount` counts, and `lines` cuts the text apart; the
last keeps the empty piece after a final newline.
-/

namespace Pinpoint.Text

/-- The pieces between the newlines. -/
def lines (t : Text) : List Text :=
  t.fields '\n'

/-- Number of lines that can be found in the text. -/
def lineCount (t : Text) : Nat :=
  match t.getLast? with
  | none => 0
  | some c => if c = '\n' then t.count '\n' else t.count '\n' + 1

/-- Offset of the first character after `n` newlines, when there is one. -/
def offsetAfter : Text → Nat → Option Nat
  | [], _ => none
  | _ :: _, 0 => some 0
  | c :: rest, n + 1 => (offsetAfter rest (if c = '\n' then n else n + 1)).map (· + 1)

/-- Offset of the first character of a line, if the text has that line. -/
def lineStart? (t : Text) (line : Int) : Option Nat :=
  if line < 1 then none else offsetAfter t (line - 1).toNat

/-- Offset of the first newline at or after a position, or else the length. -/
def lineEnd (t : Text) (position : Int) : Nat :=
  let start := cut t.length position
  start + ((t.drop start).takeWhile (· ≠ '\n')).length

/-- Number of the line that holds a position. -/
def lineNumberAt (t : Text) (position : Int) : Nat :=
  (t.take (cut t.length position)).count '\n' + 1

/-- Offset at which the line that holds a position begins. -/
def lineBegin (t : Text) (position : Int) : Nat :=
  let stop := cut t.length position
  stop - ((t.take stop).reverse.takeWhile (· ≠ '\n')).length

end Pinpoint.Text

import Pinpoint.Excerpt.Gutter
import Pinpoint.Text.Line

/-!
# Rows of an excerpt

An excerpt shows every line that a region touches, and under a line that holds
characters of the region a row of markers. It is planned as a list of rows that
knows nothing of colors or gutters.

A region without a visible character is a point: it marks one column of the
first line. The end of the region is exclusive, and the newline of a line is
the last position that belongs to it.
-/

namespace Pinpoint.Excerpt

inductive Row
  | top
  | code (number : Nat) (source : Text)
  | mark (padding : Text) (count : Nat)
deriving DecidableEq, Repr

/-- Keeps tabs, so that what follows lines up in a terminal. -/
def padding (source : Text) : Text :=
  source.map fun c => if c = '\t' then '\t' else ' '

/-- A region that holds newlines at most. -/
def isPoint (text : Text) (start stop : Int) : Bool :=
  (text.slice start stop).all (· = '\n')

/-- The columns of a line of `length` characters at `begin` that the region covers. -/
def columns (start stop : Int) (point : Bool) (begin length : Nat) : Int × Int :=
  let first := max start begin - begin
  (first, if point then first + 1 else min stop (begin + length : Nat) - begin)

def markRow (source : Text) (columns : Int × Int) : List Row :=
  if columns.1 < columns.2 then
    [.mark (padding (source.take columns.1.toNat)) (columns.2 - columns.1).toNat]
  else []

/-- The rows of the given lines, the first of which has this number and offset;
`point` asks for a single marker under it. -/
def lineRows (start stop : Int) (point : Bool) (number begin : Nat) : List Text → List Row
  | [] => []
  | line :: more =>
    let source := Text.trimEnd '\r' line
    let next := begin + line.length + 1
    .code number source :: markRow source (columns start stop point begin line.length) ++
      (if stop ≤ next then [] else lineRows start stop false (number + 1) next more)

/-- All rows, from the empty one on top to the line that holds the end of the region. -/
def rows (text : Text) (start stop : Int) : List Row :=
  let begin := text.lineBegin start
  .top :: lineRows start stop (isPoint text start stop) (text.lineNumberAt start) begin
    (Text.lines (text.drop begin))

/-- Number of the last line that the region touches. -/
def lastLine (text : Text) (start stop : Int) : Nat :=
  if start < stop then text.lineNumberAt (stop - 1) else text.lineNumberAt start

/-- Columns for line numbers: two less than the indent, but enough for the last number. -/
def numberWidth (text : Text) (start stop indent : Int) : Nat :=
  max (indent - 2).toNat (Text.Numeral.length (lastLine text start stop))

end Pinpoint.Excerpt

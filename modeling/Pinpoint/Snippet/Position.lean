import Pinpoint.Text.Line

/-!
# Positions of lines

The offset of a line is unknown until it is resolved against a text, and then
either found or invalid. Reading an offset that was never resolved is the one
error here; it is an error of the caller, not of the input.
-/

namespace Pinpoint.Snippet

inductive LineOffset
  | unresolved
  | invalid
  | resolved (offset : Int)
deriving DecidableEq, Repr

inductive ReadError
  | unresolved
deriving DecidableEq, Repr

def ReadError.message : ReadError → Text
  | .unresolved => "line offset read before it was resolved".toList

namespace LineOffset

def isValid : LineOffset → Except ReadError Bool
  | unresolved => .error .unresolved
  | invalid => .ok false
  | resolved _ => .ok true

/-- The offset, or the default when the line was not found. -/
def offsetOr (fallback : Int) : LineOffset → Except ReadError Int
  | unresolved => .error .unresolved
  | invalid => .ok fallback
  | resolved offset => .ok offset

/-- Where a line starts in a text; a missing line number is found nowhere. -/
def ofLine (text : Text) (line : Option Int) : LineOffset :=
  match line.bind text.lineStart? with
  | some offset => resolved offset
  | none => invalid

end LineOffset

/-- The offsets of the first and the last line of a region. -/
structure Positions where
  start : LineOffset := .unresolved
  stop : LineOffset := .unresolved
deriving DecidableEq, Repr

end Pinpoint.Snippet

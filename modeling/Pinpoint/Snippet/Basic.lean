import Pinpoint.Excerpt.Printer
import Pinpoint.Snippet.Position

/-!
# Snippets

A snippet is a region of one text. Its start is given by an offset or by a line
number, and so is its end, in any mixture; where both forms are given the offset
decides what is shown. A snippet is resolved, validated and rendered, and
`build` does the three in this order.

A region always lies inside the text and in order, whatever offsets were given.
Offsets of any size are taken, but not every number that is given can be written.
-/

namespace Pinpoint

structure Snippet where
  text : Text
  file : Option Text := none
  startIndex : Option Int := none
  stopIndex : Option Int := none
  startLine : Option Int := none
  stopLine : Option Int := none
  emphasis : Excerpt.Emphasis := .error
  caption : Option Text := none
deriving DecidableEq, Repr

namespace Snippet

/-- Why a snippet cannot be built. -/
inductive Error
  | startMissing
  | startLineAbsent (line : Int)
  | stopMissing
  | stopLineAbsent (line : Int)
  | linesReversed (stopLine startLine : Option Int)
deriving DecidableEq, Repr

/-- A line number in a message, where an absent one can occur too. -/
def lineLabel : Option Int → Text
  | some line => Text.Numeral.ofInt line
  | none => "None".toList

def Error.message : Error → Text
  | .startMissing => "missing start position: set index_start or line_start".toList
  | .startLineAbsent line =>
    "invalid start position: line ".toList ++ Text.Numeral.ofInt line ++ " is not in the file".toList
  | .stopMissing => "missing end position: set index_end or line_end".toList
  | .stopLineAbsent line =>
    "invalid end position: line ".toList ++ Text.Numeral.ofInt line ++ " is not in the file".toList
  | .linesReversed stopLine startLine =>
    "invalid end position: line ".toList ++ lineLabel stopLine ++ " comes before line ".toList ++
      lineLabel startLine

/-- The numbers that a message shows. -/
def Error.numbers : Error → List Int
  | .startMissing => []
  | .startLineAbsent line => [line]
  | .stopMissing => []
  | .stopLineAbsent line => [line]
  | .linesReversed stopLine startLine => stopLine.toList ++ startLine.toList

/-- A step fails by a premature read, by refusing the snippet, or by a number that is too
large to be written. -/
inductive Fault
  | read (error : ReadError)
  | refused (error : Error)
  | tooLarge (part : Text.TooLarge)
deriving DecidableEq, Repr

def Fault.message : Fault → Text
  | .read error => error.message
  | .refused error => error.message
  | .tooLarge part => part.message

/-- Offsets in the text and numbers of its lines count characters that are there, so
only a number beyond them can be too large. -/
def canWrite (s : Snippet) (n : Int) : Bool :=
  (0 ≤ n && n ≤ s.text.length) || Text.Numeral.isShort n

def checkNumbers (s : Snippet) (numbers : List Int) : Except Fault Unit :=
  if numbers.all s.canWrite then .ok () else .error (.tooLarge .numeral)

/-- What comes of refusing the snippet: the message is written first. -/
def refuse (s : Snippet) (error : Error) : Except Fault Unit := do
  s.checkNumbers error.numbers
  .error (.refused error)

def resolve (s : Snippet) : Positions where
  start := .ofLine s.text s.startLine
  stop := .ofLine s.text s.stopLine

/-- Reasons to refuse the snippet, the one to report first. -/
def refusals (s : Snippet) (startValid stopValid reversed : Bool) : List Error :=
  (if s.startIndex.isNone && s.startLine.isNone then [.startMissing] else []) ++
  (if startValid then [] else s.startLine.toList.map .startLineAbsent) ++
  (if s.stopIndex.isNone && s.stopLine.isNone then [.stopMissing] else []) ++
  (if stopValid then [] else s.stopLine.toList.map .stopLineAbsent) ++
  (if startValid && stopValid && reversed then [.linesReversed s.stopLine s.startLine] else [])

/-- Both offsets are read before anything is checked. -/
def validate (s : Snippet) (p : Positions) : Except Fault Unit := do
  let startValid ← p.start.isValid.mapError .read
  let stopValid ← p.stop.isValid.mapError .read
  let start ← (p.start.offsetOr 0).mapError .read
  let stop ← (p.stop.offsetOr 0).mapError .read
  match s.refusals startValid stopValid (stop < start) with
  | error :: _ => s.refuse error
  | [] => .ok ()

/-- The region shown, inside the text and in order. A line offset is read only
where no index is given. -/
def region (s : Snippet) (p : Positions) : Except ReadError (Nat × Nat) := do
  let start ← match s.startIndex with
    | some index => pure index
    | none => p.start.offsetOr 0
  let stop ← match s.stopIndex with
    | some index => pure index
    | none => (p.stop.offsetOr 0).map fun offset => (s.text.lineEnd offset : Int)
  let clamp (offset : Int) := min offset.toNat s.text.length
  return (min (clamp start) (clamp stop), max (clamp start) (clamp stop))

/-- Where a snippet is drawn and how far it is indented. -/
structure Frame where
  indent : Nat
  start : Nat
  stop : Nat
deriving DecidableEq, Repr

/-- The indent follows the line starts and falls back to the indexes. Its digits are
counted before the region is looked at. -/
def frame (s : Snippet) (p : Positions) : Except Fault Frame := do
  let start ← (p.start.offsetOr (s.startIndex.getD 0)).mapError .read
  let stop ← (p.stop.offsetOr (s.stopIndex.getD 0)).mapError .read
  s.checkNumbers [Excerpt.largest [start, stop]]
  let (first, last) ← (s.region p).mapError .read
  return { indent := Excerpt.indentWidth [start, stop], start := first, stop := last }

def draw (s : Snippet) (f : Frame) (color : Bool) : Text :=
  Excerpt.locationLine f.indent s.file s.startLine s.startIndex ++
    Excerpt.captionLine f.indent s.caption color ++
    Excerpt.print s.text f.start f.stop f.indent s.emphasis s.file color

/-- An indent has few columns, so of all that is drawn only the numbers of the location
can be too large. -/
def render (s : Snippet) (p : Positions) (color : Bool) : Except Fault Text := do
  let frame ← s.frame p
  s.checkNumbers (s.startLine.toList ++ s.startIndex.toList)
  return s.draw frame color

def build (s : Snippet) (color : Bool) : Except Fault Text := do
  s.validate s.resolve
  s.render s.resolve color

end Snippet

end Pinpoint

import Pinpoint.Text.Basic

/-!
# Terminal escape sequences

A style switches the terminal by an escape sequence, and the reset sequence ends
every painted text. `strip` removes what a terminal would take as a control
sequence: an introducer, parameter bytes, intermediate bytes and one final byte.
An introducer without a final byte is ordinary text and stays.
-/

namespace Pinpoint.Text

inductive Style
  | boldRed
  | boldYellow
  | boldCyan
  | boldBlue
  | reset
deriving DecidableEq, Repr

def Style.code : Style → Text
  | .boldRed => "\x1b[1;31m".toList
  | .boldYellow => "\x1b[1;33m".toList
  | .boldCyan => "\x1b[1;36m".toList
  | .boldBlue => "\x1b[1;34m".toList
  | .reset => "\x1b[0m".toList

/-- An empty text is never painted. -/
def paint (color : Bool) (style : Style) (t : Text) : Text :=
  if color && !t.isEmpty then style.code ++ t ++ Style.reset.code else t

theorem paint_plain (style : Style) (t : Text) : paint false style t = t := rfl

namespace Ansi

def isParameter (c : Char) : Bool := '0' ≤ c && c ≤ '?'

def isIntermediate (c : Char) : Bool := ' ' ≤ c && c ≤ '/'

def isFinal (c : Char) : Bool := '@' ≤ c && c ≤ '~'

/-- Length of intermediate bytes with the final byte after them. -/
def tailLength? : Text → Option Nat
  | [] => none
  | c :: rest =>
    if isIntermediate c then (tailLength? rest).map (· + 1)
    else if isFinal c then some 1
    else none

/-- Length of what follows an introducer: parameter bytes and the tail after them. -/
def bodyLength? : Text → Option Nat
  | [] => none
  | c :: rest => if isParameter c then (bodyLength? rest).map (· + 1) else tailLength? (c :: rest)

/-- Length of the control sequence at the front of the text, if it starts with one. -/
def sequenceLength? : Text → Option Nat
  | '\x1b' :: '[' :: rest => (bodyLength? rest).map (· + 2)
  | _ => none

/-- The text after `skip` characters that belong to a sequence, without its sequences. -/
def stripFrom : Nat → Text → Text
  | _, [] => []
  | skip + 1, _ :: rest => stripFrom skip rest
  | 0, c :: rest =>
    match sequenceLength? (c :: rest) with
    | some n => stripFrom (n - 1) rest
    | none => c :: stripFrom 0 rest

/-- Removes every control sequence, leftmost first and without overlap. -/
def strip (t : Text) : Text :=
  stripFrom 0 t

end Ansi

end Pinpoint.Text

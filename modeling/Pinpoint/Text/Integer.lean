import Pinpoint.Text.Digit
import Pinpoint.Text.Numeral

/-!
# Reading integers

An integer is an optional sign and decimal digits of any script, with blanks
around it and single underscores between digits. Leading zeros are allowed. A
numeral of more than `Numeral.maxDigits` digits is refused.
-/

namespace Pinpoint.Text.Integer

/-- White space that may surround a numeral; the information separators are not part of it. -/
def isBlank (c : Char) : Bool :=
  let n := c.toNat
  ('\t' ≤ c && c ≤ '\r') || c = ' ' || n = 0x85 || n = 0xA0 || n = 0x1680 ||
    (0x2000 ≤ n && n ≤ 0x200A) || n = 0x2028 || n = 0x2029 || n = 0x202F || n = 0x205F || n = 0x3000

def trimBlanks (t : Text) : Text :=
  ((t.dropWhile isBlank).reverse.dropWhile isBlank).reverse

/-- The values of digits that stand alone or have one underscore between them. -/
def digits? : Text → Option (List Nat)
  | [] => none
  | [c] => (Digit.value? c).map ([·])
  | c :: '_' :: rest => do return (← Digit.value? c) :: (← digits? rest)
  | c :: rest => do return (← Digit.value? c) :: (← digits? rest)

/-- The number that digits denote, the most significant first. -/
def value (digits : List Nat) : Nat :=
  digits.foldl (fun n d => 10 * n + d) 0

def magnitude? (t : Text) : Option Nat :=
  match digits? t with
  | some digits => if digits.length ≤ Numeral.maxDigits then some (value digits) else none
  | none => none

def ofText? (t : Text) : Option Int :=
  match trimBlanks t with
  | '-' :: rest => (magnitude? rest).map fun n : Nat => -(n : Int)
  | '+' :: rest => (magnitude? rest).map Int.ofNat
  | rest => (magnitude? rest).map Int.ofNat

end Pinpoint.Text.Integer

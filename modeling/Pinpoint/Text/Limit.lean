import Pinpoint.Text.Numeral

/-!
# What is too large to be written

A text has no limit of its own here, but three of its parts are made from an
integer and have one: the numeral of a number, a run of one character, and the
width that a label is aligned in. Each is checked before anything of it is written.
Memory is taken to suffice for all that passes.
-/

namespace Pinpoint.Text

/-- The part of a text that is too large to be written. -/
inductive TooLarge
  | numeral
  | length
  | width
deriving DecidableEq, Repr

def TooLarge.message : TooLarge → Text
  | .numeral => Numeral.limitMessage []
  | .length => "cannot fit 'int' into an index-sized integer".toList
  | .width => "Too many decimal digits in format string".toList

/-- The longest run of one character, and the largest width. -/
def maxLength : Nat :=
  Nat.pow 2 63 - 1

/-- A run of `n` characters; none if `n` is negative. -/
def checkLength (n : Int) : Except TooLarge Unit :=
  if n ≤ maxLength then .ok () else .error .length

theorem checkLength_of_le {n : Int} (h : n ≤ maxLength) : checkLength n = .ok () :=
  if_pos h

theorem checkLength_of_not_le {n : Int} (h : ¬ n ≤ maxLength) : checkLength n = .error .length :=
  if_neg h

def checkNumber (n : Int) : Except TooLarge Unit :=
  if Numeral.isShort n then .ok () else .error .numeral

/-- The width is itself written down before a label is aligned in it. -/
def checkWidth (n : Nat) : Except TooLarge Unit := do
  checkNumber n
  if n ≤ maxLength then .ok () else .error .width

theorem isShort_of_le_maxLength {n : Nat} (h : n ≤ maxLength) : Numeral.isShort n = true := by
  have hlimit : maxLength < Nat.pow 10 Numeral.maxDigits := by decide +kernel
  rw [Numeral.isShort, decide_eq_true_iff]
  omega

theorem checkWidth_of_le {n : Nat} (h : n ≤ maxLength) : checkWidth n = .ok () := by
  rw [checkWidth, checkNumber, if_pos (isShort_of_le_maxLength h), if_pos h]
  rfl

theorem checkWidth_of_not_le {n : Nat} (h : ¬ n ≤ maxLength) :
    checkWidth n = .error (if Numeral.isShort n then .width else .numeral) := by
  rw [checkWidth, checkNumber, if_neg h]
  cases Numeral.isShort n <;> rfl

/-- The numeral of a number. -/
def write (n : Int) : Except TooLarge Text := do
  checkNumber n
  return Numeral.ofInt n

/-- The number of digits in the numeral of the absolute value. -/
def digitCount (v : Int) : Except TooLarge Nat :=
  (write v.natAbs).map List.length

end Pinpoint.Text

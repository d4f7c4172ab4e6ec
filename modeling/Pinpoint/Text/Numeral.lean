import Pinpoint.Text.Basic

/-!
# Decimal numerals

Integers of any size have a numeral: the digits that carry information and, when
negative, a leading minus sign. `length` is the number of digits and ignores the
sign. Numerals of more than `maxDigits` digits are neither read nor written; what
comes of an attempt is said where it is made.
-/

namespace Pinpoint.Text.Numeral

def ofNat (n : Nat) : Text :=
  Nat.toDigits 10 n

def ofInt : Int → Text
  | .ofNat n => ofNat n
  | .negSucc n => '-' :: ofNat (n + 1)

/-- Written in at least `width` places, filled up with zeros on the left. -/
def padded (width n : Nat) : Text :=
  let digits := ofNat n
  List.replicate (width - digits.length) '0' ++ digits

def length (v : Int) : Nat :=
  (ofNat v.natAbs).length

/-- At most `k` digits suffice exactly for the numbers below `10 ^ k`. -/
theorem length_le_iff {v : Int} {k : Nat} (hk : 0 < k) : length v ≤ k ↔ v.natAbs < Nat.pow 10 k :=
  Nat.length_toDigits_le_iff (by decide) hk

theorem length_pos (v : Int) : 0 < length v :=
  Nat.length_toDigits_pos

/-- Smaller numbers have no more digits. -/
theorem length_ofNat_le {m n : Nat} (h : m ≤ n) : (ofNat m).length ≤ length n := by
  have hn : (n : Int).natAbs < Nat.pow 10 (length n) :=
    (length_le_iff (length_pos n)).mp (Nat.le_refl _)
  exact (length_le_iff (v := m) (length_pos n)).mpr (Nat.lt_of_le_of_lt h hn)

def maxDigits : Nat := 4300

/-- Whether a number has at most `maxDigits` digits. -/
def isShort (n : Int) : Bool :=
  n.natAbs < Nat.pow 10 maxDigits

/-- The sign does not count. -/
theorem isShort_iff {n : Int} : isShort n = true ↔ length n ≤ maxDigits := by
  rw [isShort, decide_eq_true_iff, length_le_iff (by decide)]

/-- Names the limit, with what was found in between. -/
def limitMessage (found : Text) : Text :=
  "Exceeds the limit (4300 digits) for integer string conversion".toList ++ found ++
    "; use sys.set_int_max_str_digits() to increase the limit".toList

end Pinpoint.Text.Numeral

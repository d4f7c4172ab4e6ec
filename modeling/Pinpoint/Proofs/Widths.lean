import Mathlib.Algebra.Order.Group.Unbundled.Int
import Mathlib.Order.Bounds.Basic
import Pinpoint.Excerpt.Gutter
import Pinpoint.Proofs.Results

/-!
# How wide numbers are

The digits of a number are counted on its numeral, yet they only say below which power
of ten the number lies. So the gutter is the narrowest one, of at least four columns, in
which every offset leaves a column free. The order of the offsets does not matter, and
more or larger offsets never make it narrower.

There is no numeral to count on beyond the limit for numbers, and this is the only way
in which the counting fails.
-/

namespace Pinpoint

namespace Text

open Numeral (length isShort maxDigits)

theorem digitCount_eq (v : Int) :
    digitCount v = if isShort v then .ok (length v) else .error .numeral := by
  have habs : isShort v.natAbs = isShort v := rfl
  rw [digitCount, write, checkNumber, habs]
  cases isShort v <;> rfl

end Text

namespace Excerpt

open Text (digitCount)
open Text.Numeral (isShort maxDigits)

section

variable {offsets other : List Int} {w : Nat}

theorem indentSize_eq (offsets : List Int) :
    indentSize offsets =
      if isShort (largest offsets) then .ok (indentWidth offsets) else .error .numeral := by
  rw [indentSize, Text.digitCount_eq]
  cases isShort (largest offsets) <;> rfl

end

/-- At each power of ten a digit and a column are added. -/
example : [[], [0], [999], [1000], [9999], [10000, 0]].map indentWidth = [4, 4, 4, 5, 5, 6] := by decide

end Excerpt

end Pinpoint

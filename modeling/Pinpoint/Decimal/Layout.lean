import Pinpoint.Decimal.Shortest
import Pinpoint.Text.Numeral

/-!
# Layout of decimals

A layout says for which powers of ten a decimal is written positionally and how
an exponent looks otherwise. A positional number always has a digit on both
sides of its point.
-/

namespace Pinpoint.Decimal

structure Layout where
  positionalFrom : Int
  positionalBelow : Int
  exponentDigits : Nat
deriving DecidableEq, Repr

/-- Digits without the zeros at the end, and the power of ten of the first one. -/
def Scaled.normal (s : Scaled) : Text × Int :=
  let digits := Text.Numeral.ofNat s.coefficient
  (Text.trimEnd '0' digits, s.exponent + digits.length - 1)

def zeros (n : Nat) : Text :=
  List.replicate n '0'

def positional (digits : Text) (power : Int) : Text :=
  if power < 0 then "0.".toList ++ zeros (power.natAbs - 1) ++ digits
  else
    let whole := power.toNat + 1
    digits.take whole ++ zeros (whole - digits.length) ++ '.' ::
      (if digits.length ≤ whole then ['0'] else digits.drop whole)

def Layout.scientific (layout : Layout) (digits : Text) (power : Int) : Text :=
  digits.take 1 ++ (if digits.length ≤ 1 then [] else '.' :: digits.drop 1) ++
    ['e', if power < 0 then '-' else '+'] ++
    Text.Numeral.padded layout.exponentDigits power.natAbs

def Layout.writeDigits (layout : Layout) (digits : Text) (power : Int) : Text :=
  if layout.positionalFrom ≤ power ∧ power < layout.positionalBelow then positional digits power
  else layout.scientific digits power

def Layout.write (layout : Layout) : Binary64 → Text
  | .nan => "nan".toList
  | .infinite negative => (if negative then ['-'] else []) ++ "inf".toList
  | .finite negative mantissa exponent =>
    (if negative then ['-'] else []) ++
      (if mantissa = 0 then positional ['0'] 0
      else
        let (digits, power) := (shortest mantissa exponent).normal
        layout.writeDigits digits power)

end Pinpoint.Decimal

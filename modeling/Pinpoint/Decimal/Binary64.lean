/-!
# Binary floating point numbers of 64 bits

A finite number is a sign, a natural mantissa below `2 ^ 53` and a power of two;
zero keeps its sign. Reading a decimal number rounds the exact quotient to the
nearest such number, and a tie goes to the even mantissa. Nothing here uses
floating point arithmetic.
-/

namespace Pinpoint.Decimal

inductive Binary64
  | finite (negative : Bool) (mantissa : Nat) (exponent : Int)
  | infinite (negative : Bool)
  | nan
deriving DecidableEq, Repr

/-- The integer nearest to a quotient, the even one of two. -/
def roundHalfEven (num den : Nat) : Nat :=
  let floor := num / den
  let rest := num % den
  if 2 * rest < den then floor
  else if den < 2 * rest then floor + 1
  else floor + floor % 2

/-- The quotient multiplied by an integral power of `base`. -/
def scale (base : Nat) (power : Int) (num den : Nat) : Nat × Nat :=
  let factor := Nat.pow base power.natAbs
  if power < 0 then (num, den * factor) else (num * factor, den)

namespace Binary64

def mantissaLimit : Nat := Nat.pow 2 53

def leastExponent : Int := -1074

def greatestExponent : Int := 971

def zero (negative : Bool) : Binary64 :=
  finite negative 0 leastExponent

/-- The exponent that gives a positive quotient a mantissa of 53 bits, unless it is too small. -/
def exponentFor (num den : Nat) : Int :=
  let guess : Int := num.log2 - den.log2 - 52
  let (n, d) := scale 2 (-guess) num den
  max (if n / d < mantissaLimit / 2 then guess - 1 else guess) leastExponent

/-- The number nearest to a positive quotient. -/
def ofQuotient (negative : Bool) (num den : Nat) : Binary64 :=
  let exponent := exponentFor num den
  let (n, d) := scale 2 (-exponent) num den
  let rounded := roundHalfEven n d
  let (mantissa, exponent) :=
    if rounded = mantissaLimit then (rounded / 2, exponent + 1) else (rounded, exponent)
  if greatestExponent < exponent then infinite negative else finite negative mantissa exponent

/-- The number nearest to `digits * 10 ^ exponent`. Magnitudes far out of range are
decided by their number of digits alone. -/
def ofDecimal (negative : Bool) (digits : Nat) (exponent : Int) : Binary64 :=
  let magnitude : Int := (Nat.toDigits 10 digits).length + exponent
  if digits = 0 || magnitude < -330 then zero negative
  else if 310 < magnitude then infinite negative
  else
    let (num, den) := scale 10 exponent digits 1
    ofQuotient negative num den

end Binary64

end Pinpoint.Decimal

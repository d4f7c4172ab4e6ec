import Pinpoint.Decimal.Binary64

/-!
# Shortest decimals

The shortest decimal of a binary number has the fewest digits among those that
read back as that number, and of two such decimals it is the nearer one. The
search tries one digit, then two, and so on: on each decimal grid only the two
neighbours of the number can qualify.
-/

namespace Pinpoint.Decimal

/-- The number `coefficient * 10 ^ exponent`. -/
structure Scaled where
  coefficient : Nat
  exponent : Int
deriving DecidableEq, Repr

/-- The decimals that round to a number: the number, the ends of the interval around it,
all over one denominator, and whether the ends belong to it. -/
structure Neighbourhood where
  low : Nat
  num : Nat
  high : Nat
  den : Nat
  closed : Bool
deriving DecidableEq, Repr

/-- The interval reaches half way to each neighbour; below a power of two the neighbours are
closer. -/
def Neighbourhood.of (mantissa : Nat) (exponent : Int) : Neighbourhood :=
  let below := if mantissa = Binary64.mantissaLimit / 2 ∧ Binary64.leastExponent < exponent then 1 else 2
  let (unit, den) := scale 2 (exponent - 2) 1 1
  { low := (4 * mantissa - below) * unit
    num := 4 * mantissa * unit
    high := (4 * mantissa + 2) * unit
    den
    closed := mantissa % 2 = 0 }

/-- The power of ten just above a positive quotient. -/
def pointOf (num den : Nat) : Int :=
  let guess : Int := (Nat.toDigits 10 num).length - (Nat.toDigits 10 den).length
  let (n, d) := scale 10 (-guess) num den
  if n < d then guess else guess + 1

/-- Whether a multiple of the grid unit lies in the neighbourhood, given in that unit. -/
def Neighbourhood.contains (b : Neighbourhood) (candidate : Nat) : Bool :=
  if b.closed then b.low ≤ candidate * b.den && candidate * b.den ≤ b.high
  else b.low < candidate * b.den && candidate * b.den < b.high

/-- The neighbourhood in units of a power of ten. -/
def Neighbourhood.inUnits (b : Neighbourhood) (power : Int) : Neighbourhood :=
  let factor := Nat.pow 10 power.natAbs
  if power < 0 then
    { b with low := b.low * factor, num := b.num * factor, high := b.high * factor }
  else { b with den := b.den * factor }

/-- The better of the two grid points around the number, if one reads back. -/
def Neighbourhood.nearest? (b : Neighbourhood) : Option Nat :=
  let floor := b.num / b.den
  match b.contains floor, b.contains (floor + 1) with
  | true, true => some (roundHalfEven b.num b.den)
  | true, false => some floor
  | false, true => some (floor + 1)
  | false, false => none

/-- Seventeen digits always read back, so the search ends there. -/
def shortest (mantissa : Nat) (exponent : Int) : Scaled :=
  let b := Neighbourhood.of mantissa exponent
  let point := pointOf b.num b.den
  let found := (List.range 17).findSome? fun (k : Nat) =>
    let unit := point - (k + 1)
    (b.inUnits unit).nearest?.map fun c => (⟨c, unit⟩ : Scaled)
  found.getD ⟨b.num / b.den, 0⟩

end Pinpoint.Decimal

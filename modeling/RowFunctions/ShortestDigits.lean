/-!
# Shortest decimal digits of a double

A finite double stands for every real number that rounds to it, an interval
around its own value.  Of the decimal grids `10 ^ exponent` the coarsest that
meets this interval gives the fewest digits; of the grid points inside, the one
nearest to the value is taken.  A value halfway between two such points is
settled by a rule that the writing format chooses.
-/

namespace RowFunctions

/-- How the choice between two equally near digit strings is settled. -/
inductive TieRule where
  | upward
  | toEven
deriving DecidableEq

/-- A positive decimal number `digits * 10 ^ exponent`. -/
structure ScaledDigits where
  digits : Nat
  exponent : Int

/-- The parts of a double: its sign and, unless it is special, the integer and
the power of two whose product is its magnitude. -/
inductive DoubleParts where
  | notANumber
  | infinite (negative : Bool)
  | finite (negative : Bool) (significand : Nat) (binaryExponent : Int)

/-- Take a double apart. -/
def DoubleParts.of (value : Float) : DoubleParts :=
  let bits := value.toBits.toNat
  let negative : Bool := Nat.pow 2 63 ≤ bits
  let biased : Nat := bits / Nat.pow 2 52 % Nat.pow 2 11
  let fraction : Nat := bits % Nat.pow 2 52
  if biased = 2047 then
    if fraction = 0 then .infinite negative else .notANumber
  else if biased = 0 then
    .finite negative fraction (-1074)
  else
    .finite negative (Nat.pow 2 52 + fraction) ((biased : Int) - 1075)

namespace ShortestDigits

/-- The interval of reals that round to a double, and the double's own value,
all four times enlarged and over one common denominator. -/
structure RoundingInterval where
  low : Nat
  value : Nat
  high : Nat
  denominator : Nat
  closed : Bool

/-- The rounding interval of `significand * 2 ^ binaryExponent`.  Below a power
of two the neighbouring doubles lie twice as close; the end points round to the
even significand. -/
def roundingInterval (significand : Nat) (binaryExponent : Int) : RoundingInterval :=
  let below := if significand = Nat.pow 2 52 ∧ binaryExponent ≠ -1074 then 1 else 2
  let scale := Nat.pow 2 binaryExponent.toNat
  { low := (4 * significand - below) * scale
    value := 4 * significand * scale
    high := (4 * significand + 2) * scale
    denominator := 4 * Nat.pow 2 (-binaryExponent).toNat
    closed := significand % 2 = 0 }

/-- The interval with the grid `10 ^ exponent` brought to the integers. -/
def RoundingInterval.onGrid (interval : RoundingInterval) (exponent : Int) :
    RoundingInterval :=
  let factor := Nat.pow 10 (-exponent).toNat
  { low := interval.low * factor
    value := interval.value * factor
    high := interval.high * factor
    denominator := interval.denominator * Nat.pow 10 exponent.toNat
    closed := interval.closed }

def RoundingInterval.contains (interval : RoundingInterval) (point : Nat) : Bool :=
  let scaled := point * interval.denominator
  if interval.closed then
    interval.low ≤ scaled && scaled ≤ interval.high
  else
    interval.low < scaled && scaled < interval.high

/-- The grid point that writes the value, if the grid has one inside. -/
def RoundingInterval.nearestInside? (interval : RoundingInterval) (tie : TieRule) :
    Option Nat :=
  let lower := interval.value / interval.denominator
  let upper := lower + 1
  match interval.contains lower, interval.contains upper with
  | false, false => none
  | true, false => some lower
  | false, true => some upper
  | true, true =>
      let doubled := 2 * interval.value
      let middle := (lower + upper) * interval.denominator
      if doubled < middle then some lower
      else if middle < doubled then some upper
      else match tie with
        | .upward => some upper
        | .toEven => if lower % 2 = 0 then some lower else some upper

/-- Search the grids from coarse to fine, starting at a power of ten. -/
def search (interval : RoundingInterval) (tie : TieRule) : Nat → Int → ScaledDigits
  | 0, exponent => ⟨0, exponent⟩
  | steps + 1, exponent =>
      match (interval.onGrid exponent).nearestInside? tie with
      | some digits => ⟨digits, exponent⟩
      | none => search interval tie steps (exponent - 1)

/-- The shortest digits of a positive double.  Every double has at most
seventeen digits and lies between `10 ^ (-324)` and `10 ^ 309`, so the search
ends within its seven hundred steps. -/
def ofPositive (tie : TieRule) (significand : Nat) (binaryExponent : Int) : ScaledDigits :=
  search (roundingInterval significand binaryExponent) tie 700 309

end ShortestDigits

end RowFunctions

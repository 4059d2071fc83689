import RowFunctions.IntegerNumerals

/-!
# The range of finite doubles

A decimal number with a fraction or an exponent is kept as its digits and a
power of ten.  Whether it rounds to a finite double is decided by comparing it
with the bound halfway between the largest double and the next power of two;
the comparison is made in integers, and only when the number of digits leaves
it open.
-/

namespace RowFunctions

/-- The number that digits denote, times a power of ten. -/
structure DecimalNumber where
  digits : List Digit
  exponent : Int

namespace DecimalNumber

/-- The least number that does not round to a finite double. -/
def doubleBound : Nat := Nat.pow 2 1024 - Nat.pow 2 970

/-- Whether a number rounds to a finite double.  Only a number of 309 places can
lie on either side of the bound. -/
def isFiniteDouble (number : DecimalNumber) : Bool :=
  let significant := number.digits.dropWhile (·.val == 0)
  let places : Int := significant.length + number.exponent
  if significant = [] ∨ places < 309 then
    true
  else if 309 < places then
    false
  else
    Digit.value significant * Nat.pow 10 number.exponent.toNat <
      doubleBound * Nat.pow 10 (-number.exponent).toNat

/-- Read the digits after a point, if there is one. -/
def readFraction : List Char → List Digit × List Char
  | '.' :: text => Digit.span text
  | text => ([], text)

/-- The exponent that fills the rest of a text, which may be empty. -/
def exponent? : List Char → Option Int
  | [] => some 0
  | mark :: text => if mark = 'e' ∨ mark = 'E' then Numeral.toInt? text else none

/-- Read an unsigned number.  The point needs a digit on one side only. -/
def parse? (text : List Char) : Option DecimalNumber :=
  let (whole, afterWhole) := Digit.span text
  let (fraction, afterFraction) := readFraction afterWhole
  if whole = [] ∧ fraction = [] then
    none
  else
    (exponent? afterFraction).map fun exponent =>
      ⟨whole ++ fraction, exponent - fraction.length⟩

end DecimalNumber

end RowFunctions

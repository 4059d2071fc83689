import RowFunctions.DoubleNumerals

/-!
# JSON values

A JSON document is kept as it was written: a number is its literal, and a string
is absent when one of its escapes names half of a surrogate pair alone.  Whether
such a value may be used is decided where it is used, because a part of a
document that nobody looks at only has to be well formed.

This module also gives the meaning of number literals.  An integer literal that
fits 64 bits is an integer, apart from negative zero; every other literal is a
double.  The double is computed from the leading digits that fit 64 bits with
one multiplication or division by a power of ten, so it may be off by the last
binary place; a literal beyond the largest double has no value.
-/

namespace RowFunctions

/-- A number as written in JSON, apart from the spelling of its exponent. -/
structure NumberLiteral where
  negative : Bool
  whole : Nat
  fraction : List Digit
  exponent : Option Int
deriving DecidableEq

/-- A number as understood by the reader of a document. -/
inductive JsonNumber where
  | integer (value : Int)
  | double (value : Float)

/-- A JSON document as a tree. -/
inductive Json where
  | null
  | boolean (value : Bool)
  | number (literal : NumberLiteral)
  | string (contents : Option String)
  | array (elements : List Json)
  | object (members : List (Option String × Json))

namespace NumberLiteral

/-- The first number too large for 64 bits. -/
def wordBound : Nat := UInt64.size

/-- Append digits to a number while the result fits 64 bits, and return the
digits from the first that does not. -/
def absorb (number : Nat) : List Digit → Nat × List Digit
  | [] => (number, [])
  | digit :: digits =>
      if 10 * number + digit.val < wordBound then
        absorb (10 * number + digit.val) digits
      else
        (number, digit :: digits)

/-- The double nearest to a power of ten, up to `10 ^ 308`. -/
def powerOfTen (exponent : Nat) : Float := Float.ofScientific 1 false exponent

/-- Multiply a double by a power of ten, in steps of `10 ^ 308` when it has to
be made smaller.  There is no result beyond the largest double. -/
def scale? (value : Float) (exponent : Int) : Option Float :=
  if h : exponent.natAbs ≤ 308 then
    if 0 ≤ exponent then
      let scaled := value * powerOfTen exponent.natAbs
      if scaled.isInf then none else some scaled
    else
      some (value / powerOfTen exponent.natAbs)
  else if value == 0 then
    some value
  else if 0 ≤ exponent then
    none
  else
    scale? (value / powerOfTen 308) (exponent + 308)
termination_by exponent.natAbs
decreasing_by omega

def double? (literal : NumberLiteral) : Option Float :=
  let (wholePart, droppedWhole) := absorb 0 (Digit.ofNat literal.whole)
  let (significand, droppedFraction) := absorb wholePart literal.fraction
  let places : Int := (literal.fraction.length : Int) - droppedFraction.length
  let exponent := (droppedWhole.length : Int) - places + literal.exponent.getD 0
  (scale? (Float.ofNat significand) exponent).map fun value =>
    if literal.negative then -value else value

/-- The value of a literal, if it is within range. -/
def value? (literal : NumberLiteral) : Option JsonNumber :=
  if literal.fraction = [] ∧ literal.exponent = none then
    if literal.negative then
      if 0 < literal.whole ∧ Int64.minValue.toInt ≤ -literal.whole then
        some (.integer (-literal.whole))
      else
        literal.double?.map .double
    else if literal.whole < wordBound then
      some (.integer literal.whole)
    else
      literal.double?.map .double
  else
    literal.double?.map .double

def ofInt (number : Int) : NumberLiteral := ⟨decide (number < 0), number.natAbs, [], none⟩

/-- The literal of `digits * 10 ^ exponent`.  From `10 ^ (-5)` up to below
`10 ^ 16` it is positional with at least one decimal place; otherwise one digit
stands before the point and an exponent follows. -/
def ofScaledDigits (negative : Bool) (number : ScaledDigits) : NumberLiteral :=
  let digits := Digit.ofNat number.digits
  let leading := number.exponent + digits.length - 1
  if -5 ≤ leading ∧ leading ≤ 15 then
    if 0 ≤ number.exponent then
      ⟨negative, number.digits * Nat.pow 10 number.exponent.toNat, [.zero], none⟩
    else
      let places := (-number.exponent).toNat
      let fraction := digits.drop (digits.length - places)
      ⟨negative, number.digits / Nat.pow 10 places,
        List.replicate (places - fraction.length) .zero ++ fraction, none⟩
  else
    ⟨negative, (digits.head?.map Fin.val).getD 0, digits.tail, some leading⟩

/-- The literal of a double, with ties of digits settled toward an even last
digit; the special values have none. -/
def ofDouble? (value : Float) : Option NumberLiteral :=
  match DoubleParts.of value with
  | .notANumber => none
  | .infinite _ => none
  | .finite negative significand binaryExponent =>
      if significand = 0 then
        some ⟨negative, 0, [.zero], none⟩
      else
        some (ofScaledDigits negative
          (ShortestDigits.ofPositive .toEven significand binaryExponent))

end NumberLiteral

namespace Json

/-- Arrays and objects may stand at most this deep inside each other. -/
def nestingLimit : Nat := 127

/-- Whether every string and number of a value can be understood and its arrays
and objects nest at most so many levels deep. -/
def isReadable : Nat → Json → Bool
  | _, null => true
  | _, boolean _ => true
  | _, number literal => literal.value?.isSome
  | _, string contents => contents.isSome
  | 0, array _ => false
  | 0, object _ => false
  | levels + 1, array elements => elements.all (isReadable levels)
  | levels + 1, object members =>
      members.all fun entry => entry.1.isSome && isReadable levels entry.2

end Json

end RowFunctions

import RowFunctions.IntegerNumerals
import RowFunctions.ShortestDigits

/-!
# Numerals of doubles

Doubles are written with the fewest digits that read back.  The plain form
never uses an exponent and leaves out an empty fraction.
-/

namespace RowFunctions

namespace DoubleNumeral

/-- Write `digits * 10 ^ exponent` positionally, without an empty fraction. -/
def positional (number : ScaledDigits) : List Char :=
  let digits := Numeral.ofNat number.digits
  if 0 ≤ number.exponent then
    digits ++ List.replicate number.exponent.toNat '0'
  else
    let places := (-number.exponent).toNat
    if places < digits.length then
      digits.take (digits.length - places) ++ '.' :: digits.drop (digits.length - places)
    else
      '0' :: '.' :: (List.replicate (places - digits.length) '0' ++ digits)

/-- The plain form of a double: a minus sign also for negative zero, words for
the special values, and ties of digits settled upward. -/
def plain (value : Float) : String :=
  match DoubleParts.of value with
  | .notANumber => "NaN"
  | .infinite negative => if negative then "-inf" else "inf"
  | .finite negative significand binaryExponent =>
      let sign := if negative then ['-'] else []
      if significand = 0 then
        String.ofList (sign ++ ['0'])
      else
        let number := ShortestDigits.ofPositive .upward significand binaryExponent
        String.ofList (sign ++ positional number)

end DoubleNumeral

end RowFunctions

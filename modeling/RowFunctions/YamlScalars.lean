import RowFunctions.DoubleRange
import RowFunctions.HexadecimalCodes

/-!
# Plain scalars of YAML

What a scalar without quotes means: nothing, a truth value, a number or text.  A
text that could be taken for something else has to be quoted.
-/

namespace RowFunctions

namespace YamlScalar

/-- Whether a plain scalar means that there is no value. -/
def isNull (text : String) : Bool :=
  text == "" || text == "null" || text == "Null" || text == "NULL" || text == "~"

def boolean? (text : String) : Option Bool :=
  if ["true", "True", "TRUE"].contains text then some true
  else if ["false", "False", "FALSE"].contains text then some false
  else none

def dropSign : List Char → List Char
  | '+' :: rest => rest
  | '-' :: rest => rest
  | text => text

/-- Whether a text is made of digits with a superfluous zero at the front. -/
def hasLeadingZero (text : List Char) : Bool :=
  match dropSign text with
  | '0' :: digit :: digits => (digit :: digits).all Char.isDigit
  | _ => false

def digits? (base : Nat) (text : List Char) : Option Nat :=
  if !text.isEmpty && text.all (Hexadecimal.isDigitOf base) then
    some (Hexadecimal.numberInBase base text)
  else
    none

def unsigned? (text : List Char) : Option Nat :=
  match text with
  | '0' :: 'x' :: digits => digits? 16 digits
  | '0' :: 'o' :: digits => digits? 8 digits
  | '0' :: 'b' :: digits => digits? 2 digits
  | digits => if hasLeadingZero digits then none else digits? 10 digits

def natural? : List Char → Option Nat
  | '+' :: text => unsigned? text
  | text => unsigned? text

/-- Whether a plain scalar means an integer of at most 128 bits. -/
def isInteger : List Char → Bool
  | '-' :: text =>
      match unsigned? text with
      | some number => number ≤ Nat.pow 2 127
      | none => false
  | text =>
      match natural? text with
      | some number => number < Nat.pow 2 128
      | none => false

def infinityWords : List (List Char) := [".inf".toList, ".Inf".toList, ".INF".toList]

def notANumberWords : List (List Char) := [".nan".toList, ".NaN".toList, ".NAN".toList]

def isDouble (text : List Char) : Bool :=
  infinityWords.contains (dropSign text) || notANumberWords.contains text ||
    match DecimalNumber.parse? (dropSign text) with
    | some number => number.isFiniteDouble
    | none => false

/-- Whether a text without quotes could be taken for something else than text. -/
def isAmbiguous (text : String) : Bool :=
  isNull text || (boolean? text).isSome || isInteger text.toList || isDouble text.toList ||
    hasLeadingZero text.toList

end YamlScalar

end RowFunctions

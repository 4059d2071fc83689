/-!
# Hexadecimal digits and character codes

Digits of bases up to sixteen, the numbers they denote, and the characters that
code points written with them stand for.
-/

namespace RowFunctions

namespace Hexadecimal

def value? (character : Char) : Option Nat :=
  let code := character.toNat
  if 48 ≤ code ∧ code < 58 then some (code - 48)
  else if 65 ≤ code ∧ code < 71 then some (code - 55)
  else if 97 ≤ code ∧ code < 103 then some (code - 87)
  else none

def isDigitOf (base : Nat) (character : Char) : Bool :=
  match value? character with
  | some value => value < base
  | none => false

def numberInBase (base : Nat) (digits : List Char) : Nat :=
  digits.foldl (fun number digit => number * base + (value? digit).getD 0) 0

/-- The number that hexadecimal digits denote, if there are no other characters. -/
def number? (digits : List Char) : Option Nat :=
  if digits.all (isDigitOf 16) then some (numberInBase 16 digits) else none

/-- The character with a code point, unless it is a surrogate or too large. -/
def character? (code : Nat) : Option Char :=
  if code < 0xD800 ∨ (0xDFFF < code ∧ code < 0x110000) then some (Char.ofNat code) else none

/-- The character whose code the first so many hexadecimal digits of a text give. -/
def leadingCharacter? (size : Nat) (text : List Char) : Option Char :=
  if text.length < size then none else (number? (text.take size)).bind character?

def upperDigit (value : Nat) : Char :=
  if value < 10 then Char.ofNat (48 + value) else Char.ofNat (55 + value)

/-- A number as so many hexadecimal digits in upper case. -/
def upperDigits : Nat → Nat → List Char
  | 0, _ => []
  | size + 1, number => upperDigits size (number / 16) ++ [upperDigit (number % 16)]

end Hexadecimal

end RowFunctions

/-!
# Decimal numerals of integers

Natural numbers are written without leading zeros.  Numerals are read with an
optional sign and any number of leading zeros; a bounded reader refuses values
that do not fit its range.
-/

namespace RowFunctions

/-- A decimal digit. -/
abbrev Digit := Fin 10

namespace Digit

def zero : Digit := ⟨0, by decide⟩

def toChar (digit : Digit) : Char := Char.ofNat (48 + digit.val)

def ofChar? (character : Char) : Option Digit :=
  if h : 48 ≤ character.toNat ∧ character.toNat < 58 then
    some ⟨character.toNat - 48, by omega⟩
  else
    none

/-- The number that a list of digits denotes, the first digit weighing most. -/
def value (digits : List Digit) : Nat :=
  digits.foldl (fun number digit => 10 * number + digit.val) 0

/-- The digits of a number, without leading zeros; zero has the single digit `0`. -/
def ofNat (number : Nat) : List Digit :=
  if number < 10 then
    [⟨number % 10, Nat.mod_lt _ (by decide)⟩]
  else
    ofNat (number / 10) ++ [⟨number % 10, Nat.mod_lt _ (by decide)⟩]
termination_by number
decreasing_by omega

/-- Split off the longest run of digit characters at the front. -/
def span : List Char → List Digit × List Char
  | [] => ([], [])
  | character :: rest =>
      match ofChar? character with
      | some digit => let (digits, remaining) := span rest
                      (digit :: digits, remaining)
      | none => ([], character :: rest)

end Digit

namespace Numeral

def ofNat (number : Nat) : List Char := (Digit.ofNat number).map Digit.toChar

/-- The decimal numeral of an integer, with a minus sign only when negative. -/
def ofInt : Int → List Char
  | .ofNat number => ofNat number
  | .negSucc number => '-' :: ofNat (number + 1)

/-- Read a nonempty run of digits that fills the whole text. -/
def toNat? (text : List Char) : Option Nat :=
  match Digit.span text with
  | (digit :: digits, []) => some (Digit.value (digit :: digits))
  | _ => none

/-- Read an integer with an optional plus or minus sign. -/
def toInt? : List Char → Option Int
  | '+' :: digits => (toNat? digits).map Int.ofNat
  | '-' :: digits => (toNat? digits).map fun number => -(number : Int)
  | digits => (toNat? digits).map Int.ofNat

/-- Read a natural number with an optional plus sign, below a bound. -/
def toNatBelow? (bound : Nat) (text : List Char) : Option Nat :=
  let digits := match text with
    | '+' :: digits => digits
    | digits => digits
  match toNat? digits with
  | some number => if number < bound then some number else none
  | none => none

def toInt32? (text : List Char) : Option Int32 :=
  match toInt? text with
  | some number =>
      if Int32.minValue.toInt ≤ number ∧ number ≤ Int32.maxValue.toInt then
        some (Int32.ofInt number)
      else
        none
  | none => none

/-- The decimal numeral of a signed word, as a string. -/
def ofInt32 (word : Int32) : String := String.ofList (ofInt word.toInt)

end Numeral

end RowFunctions

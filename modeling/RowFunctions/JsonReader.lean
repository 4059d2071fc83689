import RowFunctions.HexadecimalCodes
import RowFunctions.JsonValues

/-!
# Reading JSON

A strict reader of JSON text.  Blanks are space, tab, line feed and carriage
return; there are no comments, no superfluous commas or zeros and no control
characters inside strings; nothing but blanks may follow the document.
-/

namespace RowFunctions

namespace JsonReader

def isBlank (character : Char) : Bool :=
  character == ' ' || character == '\t' || character == '\n' || character == '\r'

def skipBlanks (text : List Char) : List Char := text.dropWhile isBlank

def hexCode? (first second third fourth : Char) : Option Nat := do
  let high ← Hexadecimal.value? first
  let upper ← Hexadecimal.value? second
  let lower ← Hexadecimal.value? third
  let low ← Hexadecimal.value? fourth
  return ((high * 16 + upper) * 16 + lower) * 16 + low

/-- The code point that a one-letter escape stands for. -/
def escapedCode? : Char → Option Nat
  | '"' => some 34
  | '\\' => some 92
  | '/' => some 47
  | 'b' => some 8
  | 'f' => some 12
  | 'n' => some 10
  | 'r' => some 13
  | 't' => some 9
  | _ => none

/-- Read the rest of a string after its opening quote.  The codes are code
points, except that an escape may also give a single UTF-16 surrogate. -/
def readCodes : List Char → Option (List Nat × List Char)
  | [] => none
  | '"' :: rest => some ([], rest)
  | '\\' :: 'u' :: first :: second :: third :: fourth :: rest => do
      let code ← hexCode? first second third fourth
      let (codes, remaining) ← readCodes rest
      return (code :: codes, remaining)
  | '\\' :: escape :: rest => do
      let code ← escapedCode? escape
      let (codes, remaining) ← readCodes rest
      return (code :: codes, remaining)
  | character :: rest =>
      if character.toNat < 32 then
        none
      else do
        let (codes, remaining) ← readCodes rest
        return (character.toNat :: codes, remaining)

/-- Join surrogate pairs; there is no text if a surrogate stands alone. -/
def textOfCodes? : List Nat → Option (List Char)
  | [] => some []
  | code :: codes =>
      if 0xD800 ≤ code ∧ code < 0xDC00 then
        match codes with
        | [] => none
        | trail :: codes =>
            if 0xDC00 ≤ trail ∧ trail < 0xE000 then
              (textOfCodes? codes).map
                (Char.ofNat (0x10000 + (code - 0xD800) * 0x400 + (trail - 0xDC00)) :: ·)
            else
              none
      else if 0xDC00 ≤ code ∧ code < 0xE000 then
        none
      else
        (textOfCodes? codes).map (Char.ofNat code :: ·)

/-- Read the rest of a string after its opening quote. -/
def readString (text : List Char) : Option (Option String × List Char) :=
  match readCodes text with
  | some (codes, rest) => some ((textOfCodes? codes).map String.ofList, rest)
  | none => none

/-- Read the whole part of a number, which has no superfluous zeros. -/
def readWhole (text : List Char) : Option (Nat × List Char) :=
  match Digit.span text with
  | ([], _) => none
  | (digit :: digits, rest) =>
      if digit.val = 0 ∧ digits ≠ [] then none else some (Digit.value (digit :: digits), rest)

/-- Read the fraction of a number, which is absent or has at least one digit. -/
def readFraction : List Char → Option (List Digit × List Char)
  | '.' :: text =>
      match Digit.span text with
      | ([], _) => none
      | (digits, rest) => some (digits, rest)
  | text => some ([], text)

def readSign : List Char → Bool × List Char
  | '-' :: text => (true, text)
  | '+' :: text => (false, text)
  | text => (false, text)

def readExponentDigits (text : List Char) : Option (Option Int × List Char) :=
  let (negative, unsigned) := readSign text
  match Digit.span unsigned with
  | ([], _) => none
  | (digits, rest) =>
      let magnitude : Int := Digit.value digits
      some (some (if negative then -magnitude else magnitude), rest)

/-- Read the exponent of a number, which may be absent. -/
def readExponent : List Char → Option (Option Int × List Char)
  | 'e' :: text => readExponentDigits text
  | 'E' :: text => readExponentDigits text
  | text => some (none, text)

def readUnsigned (negative : Bool) (text : List Char) :
    Option (NumberLiteral × List Char) := do
  let (whole, afterWhole) ← readWhole text
  let (fraction, afterFraction) ← readFraction afterWhole
  let (exponent, rest) ← readExponent afterFraction
  return (⟨negative, whole, fraction, exponent⟩, rest)

def readNumber : List Char → Option (NumberLiteral × List Char)
  | '-' :: text => readUnsigned true text
  | text => readUnsigned false text

mutual

/-- Read one value after blanks.  The fuel exceeds the length of the text. -/
def readValue : Nat → List Char → Option (Json × List Char)
  | 0, _ => none
  | fuel + 1, text =>
      match skipBlanks text with
      | 'n' :: 'u' :: 'l' :: 'l' :: rest => some (.null, rest)
      | 't' :: 'r' :: 'u' :: 'e' :: rest => some (.boolean true, rest)
      | 'f' :: 'a' :: 'l' :: 's' :: 'e' :: rest => some (.boolean false, rest)
      | '"' :: text => do
          let (contents, rest) ← readString text
          return (.string contents, rest)
      | '[' :: text =>
          match skipBlanks text with
          | ']' :: rest => some (.array [], rest)
          | text => do
              let (elements, rest) ← readElements fuel text
              return (.array elements, rest)
      | '\x7b' :: text =>
          match skipBlanks text with
          | '\x7d' :: rest => some (.object [], rest)
          | text => do
              let (members, rest) ← readMembers fuel text
              return (.object members, rest)
      | text => do
          let (literal, rest) ← readNumber text
          return (.number literal, rest)

/-- Read the elements of an array up to its closing bracket. -/
def readElements : Nat → List Char → Option (List Json × List Char)
  | 0, _ => none
  | fuel + 1, text => do
      let (element, rest) ← readValue fuel text
      match skipBlanks rest with
      | ',' :: text => do
          let (elements, rest) ← readElements fuel text
          return (element :: elements, rest)
      | ']' :: rest => return ([element], rest)
      | _ => none

/-- Read the members of an object up to its closing brace. -/
def readMembers : Nat → List Char → Option (List (Option String × Json) × List Char)
  | 0, _ => none
  | fuel + 1, text =>
      match skipBlanks text with
      | '"' :: text => do
          let (key, rest) ← readString text
          match skipBlanks rest with
          | ':' :: text => do
              let (value, rest) ← readValue fuel text
              match skipBlanks rest with
              | ',' :: text => do
                  let (members, rest) ← readMembers fuel text
                  return ((key, value) :: members, rest)
              | '\x7d' :: rest => return ([(key, value)], rest)
              | _ => none
          | _ => none
      | _ => none

end

end JsonReader

/-- Read a JSON document, ignoring blanks around it. -/
def Json.parse? (text : String) : Option Json :=
  match JsonReader.readValue (text.length + 1) text.toList with
  | some (value, rest) => if JsonReader.skipBlanks rest = [] then some value else none
  | none => none

end RowFunctions

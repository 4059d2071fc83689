import RowFunctions.JsonValues

/-!
# Printing JSON

Documents are printed with one element or member to a line, indented by two
blanks for every level.  Strings escape the quote, the backslash and the control
characters; numbers are printed as their literals.
-/

namespace RowFunctions

namespace JsonPrinter

def hexDigit (value : Nat) : Char :=
  if value < 10 then Char.ofNat (48 + value) else Char.ofNat (87 + value)

def escape (character : Char) : List Char :=
  if character = '"' then ['\\', '"']
  else if character = '\\' then ['\\', '\\']
  else if character = '\n' then ['\\', 'n']
  else if character = '\t' then ['\\', 't']
  else if character = '\r' then ['\\', 'r']
  else if character.toNat = 8 then ['\\', 'b']
  else if character.toNat = 12 then ['\\', 'f']
  else if character.toNat < 32 then
    ['\\', 'u', '0', '0', hexDigit (character.toNat / 16), hexDigit (character.toNat % 16)]
  else [character]

def quoted (text : List Char) : List Char := '"' :: (text.flatMap escape ++ ['"'])

def exponent : Option Int → List Char
  | none => []
  | some (.ofNat magnitude) => 'e' :: '+' :: Numeral.ofNat magnitude
  | some (.negSucc magnitude) => 'e' :: '-' :: Numeral.ofNat (magnitude + 1)

def fraction : List Digit → List Char
  | [] => []
  | digits => '.' :: digits.map Digit.toChar

def number (literal : NumberLiteral) : List Char :=
  (if literal.negative then ['-'] else []) ++
    (Numeral.ofNat literal.whole ++
      (fraction literal.fraction ++ exponent literal.exponent))

def newLine (level : Nat) : List Char := '\n' :: List.replicate (2 * level) ' '

mutual

/-- A printed value whose first line stands at some level, and the text behind
it.  A string that has no text prints as an empty string. -/
def value (level : Nat) : Json → List Char → List Char
  | .null, rest => 'n' :: 'u' :: 'l' :: 'l' :: rest
  | .boolean true, rest => 't' :: 'r' :: 'u' :: 'e' :: rest
  | .boolean false, rest => 'f' :: 'a' :: 'l' :: 's' :: 'e' :: rest
  | .number literal, rest => number literal ++ rest
  | .string contents, rest => quoted (contents.getD "").toList ++ rest
  | .array [], rest => '[' :: ']' :: rest
  | .array (element :: elements), rest =>
      '[' :: (newLine (level + 1) ++ value (level + 1) element
        (moreElements (level + 1) elements (newLine level ++ ']' :: rest)))
  | .object [], rest => '\x7b' :: '\x7d' :: rest
  | .object ((key, entry) :: members), rest =>
      '\x7b' :: (newLine (level + 1) ++ (quoted (key.getD "").toList ++
        (':' :: ' ' :: value (level + 1) entry
          (moreMembers (level + 1) members (newLine level ++ '\x7d' :: rest)))))

/-- The elements after the first, each behind a comma on a line of its own, and
the text behind them. -/
def moreElements (level : Nat) : List Json → List Char → List Char
  | [], rest => rest
  | element :: elements, rest =>
      ',' :: (newLine level ++ value level element (moreElements level elements rest))

/-- The members after the first, each behind a comma on a line of its own, and
the text behind them. -/
def moreMembers (level : Nat) : List (Option String × Json) → List Char → List Char
  | [], rest => rest
  | (key, entry) :: members, rest =>
      ',' :: (newLine level ++ (quoted (key.getD "").toList ++
        (':' :: ' ' :: value level entry (moreMembers level members rest))))

end

end JsonPrinter

def Json.pretty (document : Json) : String := String.ofList (JsonPrinter.value 0 document [])

end RowFunctions

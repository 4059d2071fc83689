import RowFunctions.DoubleRange
import RowFunctions.HexadecimalCodes
import RowFunctions.TomlDocuments

/-!
# Reading TOML

A TOML document is a sequence of assignments and table headers, each on a line
of its own.  They are read first and then carried out in order on the tree of
tables.
-/

namespace RowFunctions

/-- One line of a TOML document. -/
inductive TomlStatement where
  | assignment (key : List String) (value : Toml)
  | header (key : List String)
  | arrayHeader (key : List String)

namespace TomlReader

def quote : Char := Char.ofNat 39

def isBlank (character : Char) : Bool := character == ' ' || character == '\t'

def skipBlanks (text : List Char) : List Char := text.dropWhile isBlank

/-- Whether a character must not stand unescaped in a string or comment. -/
def isControl (character : Char) : Bool :=
  (character.toNat < 32 && character != '\t') || character.toNat == 127

/-- Whether a character can stand in a key without quotes. -/
def isBare (character : Char) : Bool :=
  character.isAlphanum || character == '_' || character == '-'

def readEscape : List Char → Option (Char × List Char)
  | 'u' :: rest =>
      (Hexadecimal.leadingCharacter? 4 rest).map fun character => (character, rest.drop 4)
  | 'U' :: rest =>
      (Hexadecimal.leadingCharacter? 8 rest).map fun character => (character, rest.drop 8)
  | 'x' :: rest =>
      (Hexadecimal.leadingCharacter? 2 rest).map fun character => (character, rest.drop 2)
  | 'b' :: rest => some ('\x08', rest)
  | 't' :: rest => some ('\t', rest)
  | 'n' :: rest => some ('\n', rest)
  | 'f' :: rest => some ('\x0c', rest)
  | 'r' :: rest => some ('\r', rest)
  | 'e' :: rest => some ('\x1b', rest)
  | '"' :: rest => some ('"', rest)
  | '\\' :: rest => some ('\\', rest)
  | _ => none

/-- Read the rest of a basic string after its opening quote. -/
def readBasic : Nat → List Char → Option (List Char × List Char)
  | 0, _ => none
  | _, [] => none
  | _, '"' :: rest => some ([], rest)
  | fuel + 1, '\\' :: text => do
      let (character, rest) ← readEscape text
      let (characters, rest) ← readBasic fuel rest
      return (character :: characters, rest)
  | fuel + 1, character :: text =>
      if isControl character then
        none
      else do
        let (characters, rest) ← readBasic fuel text
        return (character :: characters, rest)

/-- Read the rest of a literal string after its opening quote. -/
def readLiteral : List Char → Option (List Char × List Char)
  | [] => none
  | character :: text =>
      if character = quote then some ([], text)
      else if isControl character then none
      else do
        let (characters, rest) ← readLiteral text
        return (character :: characters, rest)

def skipEmptyLines : List Char → List Char
  | ' ' :: rest => skipEmptyLines rest
  | '\t' :: rest => skipEmptyLines rest
  | '\n' :: rest => skipEmptyLines rest
  | '\r' :: '\n' :: rest => skipEmptyLines rest
  | text => text

/-- The text after a backslash at the end of a line, with the blanks and line
ends that follow left out; absent when something else follows the backslash. -/
def afterLineEnd? (text : List Char) : Option (List Char) :=
  match skipBlanks text with
  | '\n' :: rest => some (skipEmptyLines rest)
  | '\r' :: '\n' :: rest => some (skipEmptyLines rest)
  | _ => none

/-- Read the rest of a basic string over several lines, whose line ends are kept
as they are.  Up to two quotes may stand right before the closing three. -/
def readBasicLines : Nat → List Char → Option (List Char × List Char)
  | 0, _ => none
  | _, [] => none
  | _, '"' :: '"' :: '"' :: '"' :: '"' :: rest => some (['"', '"'], rest)
  | _, '"' :: '"' :: '"' :: '"' :: rest => some (['"'], rest)
  | _, '"' :: '"' :: '"' :: rest => some ([], rest)
  | fuel + 1, '\\' :: text =>
      match afterLineEnd? text with
      | some rest => readBasicLines fuel rest
      | none => do
          let (character, rest) ← readEscape text
          let (characters, rest) ← readBasicLines fuel rest
          return (character :: characters, rest)
  | fuel + 1, '\r' :: '\n' :: text => do
      let (characters, rest) ← readBasicLines fuel text
      return ('\r' :: '\n' :: characters, rest)
  | fuel + 1, character :: text =>
      if isControl character ∧ character ≠ '\n' then
        none
      else do
        let (characters, rest) ← readBasicLines fuel text
        return (character :: characters, rest)

/-- Read the rest of a literal string over several lines, whose line ends are
kept as they are. -/
def readLiteralLines : Nat → List Char → Option (List Char × List Char)
  | 0, _ => none
  | _, [] => none
  | fuel + 1, character :: text =>
      if text.take 2 = [quote, quote] ∧ character = quote then
        match (text.drop 2).takeWhile (· == quote) with
        | [] => some ([], text.drop 2)
        | [_] => some ([quote], text.drop 3)
        | _ => some ([quote, quote], text.drop 4)
      else if character = '\r' ∧ text.head? = some '\n' then do
        let (characters, rest) ← readLiteralLines fuel (text.drop 1)
        return ('\r' :: '\n' :: characters, rest)
      else if isControl character ∧ character ≠ '\n' then
        none
      else do
        let (characters, rest) ← readLiteralLines fuel text
        return (character :: characters, rest)

def dropLineEnd : List Char → List Char
  | '\n' :: rest => rest
  | '\r' :: '\n' :: rest => rest
  | text => text

/-- Read a string of one line, if the text starts with one. -/
def readLineString (text : List Char) : Option (List Char × List Char) :=
  match text with
  | [] => none
  | character :: rest =>
      if character = '"' then readBasic (rest.length + 1) rest
      else if character = quote then readLiteral rest
      else none

/-- Read a string in any of its four forms, if the text starts with one. -/
def readString (text : List Char) : Option (List Char × List Char) :=
  if text.take 3 = ['"', '"', '"'] then
    readBasicLines text.length (dropLineEnd (text.drop 3))
  else if text.take 3 = [quote, quote, quote] then
    readLiteralLines text.length (dropLineEnd (text.drop 3))
  else
    readLineString text

def readKeyPart (text : List Char) : Option (String × List Char) :=
  match text.takeWhile isBare with
  | [] => (readLineString text).map fun found => (String.ofList found.1, found.2)
  | bare => some (String.ofList bare, text.dropWhile isBare)

/-- How deep values may be nested and how many parts a key may have. -/
def maximalDepth : Nat := 80

/-- Read at most so many parts of a key, which are joined by dots. -/
def readKeyParts : Nat → List Char → Option (List String × List Char)
  | 0, _ => none
  | limit + 1, text => do
      let (part, rest) ← readKeyPart (skipBlanks text)
      match skipBlanks rest with
      | '.' :: text => do
          let (parts, rest) ← readKeyParts limit text
          return (part :: parts, rest)
      | rest => return ([part], rest)

def readKey (text : List Char) : Option (List String × List Char) :=
  readKeyParts maximalDepth text

/-- Whether a character can stand in a number, word, date or time. -/
def isScalarCharacter (character : Char) : Bool :=
  character.isAlphanum || character == '+' || character == '-' || character == '_' ||
    character == '.' || character == ':'

/-- The characters without the underscores that stand between two of them, if no
underscore stands anywhere else. -/
def joinDigits? (isDigit : Char → Bool) : List Char → Option (List Char)
  | [] => none
  | [digit] => if isDigit digit then some [digit] else none
  | digit :: '_' :: rest =>
      if isDigit digit then (joinDigits? isDigit rest).map (digit :: ·) else none
  | digit :: rest =>
      if isDigit digit then (joinDigits? isDigit rest).map (digit :: ·) else none

def decimal? (text : List Char) : Option Nat :=
  match joinDigits? Char.isDigit text with
  | some ('0' :: _ :: _) => none
  | some digits => some (Hexadecimal.numberInBase 10 digits)
  | none => none

def inBase? (base : Nat) (text : List Char) : Option Nat :=
  (joinDigits? (Hexadecimal.isDigitOf base) text).map (Hexadecimal.numberInBase base)

/-- Read an integer in decimal with a sign, or in another base. -/
def integer? : List Char → Option Int
  | '+' :: digits => (decimal? digits).map Int.ofNat
  | '-' :: digits => (decimal? digits).map fun number => -(number : Int)
  | '0' :: 'x' :: digits => (inBase? 16 digits).map Int.ofNat
  | '0' :: 'o' :: digits => (inBase? 8 digits).map Int.ofNat
  | '0' :: 'b' :: digits => (inBase? 2 digits).map Int.ofNat
  | digits => (decimal? digits).map Int.ofNat

/-- Whether an integer fits 128 bits, with or without a sign. -/
def fitsWord (value : Int) : Bool := -Nat.pow 2 127 ≤ value && value < Nat.pow 2 128

def dropSign : List Char → List Char
  | '+' :: rest => rest
  | '-' :: rest => rest
  | text => text

/-- Whether a number without its sign rounds to a finite double. -/
def isFinite (unsigned : List Char) : Bool :=
  match DecimalNumber.parse? (unsigned.filter (· != '_')) with
  | some number => number.isFiniteDouble
  | none => false

/-- Whether a text is a number with a fraction or an exponent that a double can
hold, or a special value. -/
def isFractional (text : List Char) : Bool :=
  let unsigned := dropSign text
  if unsigned = ['i', 'n', 'f'] ∨ unsigned = ['n', 'a', 'n'] then
    true
  else
    let isMark := fun character => character == 'e' || character == 'E'
    let mantissa := unsigned.takeWhile fun character => !isMark character
    let exponent := unsigned.dropWhile fun character => !isMark character
    let whole := mantissa.takeWhile (· != '.')
    let fraction := mantissa.dropWhile (· != '.')
    let exponentFits := match exponent with
      | [] => true
      | _ :: digits => (joinDigits? Char.isDigit (dropSign digits)).isSome
    let fractionFits := match fraction with
      | [] => true
      | _ :: digits => (joinDigits? Char.isDigit digits).isSome
    (decimal? whole).isSome && exponentFits && fractionFits &&
      !(fraction.isEmpty && exponent.isEmpty) && isFinite unsigned

/-- Whether a text has digits where the pattern has zeros and the pattern's
characters elsewhere. -/
def fits : List Char → List Char → Bool
  | [], [] => true
  | '0' :: pattern, character :: text => character.isDigit && fits pattern text
  | mark :: pattern, character :: text => mark == character && fits pattern text
  | _, _ => false

/-- The number that the two digits at a position of a text denote, or zero. -/
def pairAt (text : List Char) (position : Nat) : Nat :=
  Hexadecimal.numberInBase 10 ((text.drop position).take 2)

/-- Whether a text is a time of day.  A minute may have a leap second. -/
def isTime (text : List Char) : Bool :=
  (fits "00:00".toList text || fits "00:00:00".toList text ||
    (fits "00:00:00.".toList (text.take 9) && 9 < text.length &&
      (text.drop 9).all Char.isDigit)) &&
    pairAt text 0 < 24 && pairAt text 3 < 60 && pairAt text 6 ≤ 60

/-- Whether a text is a time of day with an offset of less than a day. -/
def isOffsetTime (text : List Char) : Bool :=
  match text.reverse with
  | 'Z' :: rest => isTime rest.reverse
  | 'z' :: rest => isTime rest.reverse
  | _ =>
      let offset := text.drop (text.length - 6)
      (fits "+00:00".toList offset || fits "-00:00".toList offset) &&
        pairAt offset 1 < 24 && pairAt offset 4 < 60 &&
        isTime (text.take (text.length - 6))

/-- The number of days in a month of a year. -/
def daysInMonth (year month : Nat) : Nat :=
  if month = 2 then
    if year % 4 = 0 ∧ (year % 100 ≠ 0 ∨ year % 400 = 0) then 29 else 28
  else if month = 4 ∨ month = 6 ∨ month = 9 ∨ month = 11 then
    30
  else
    31

def isDate (text : List Char) : Bool :=
  let year := Hexadecimal.numberInBase 10 (text.take 4)
  let month := pairAt text 5
  let day := pairAt text 8
  fits "0000-00-00".toList text && 1 ≤ month && month ≤ 12 && 1 ≤ day &&
    day ≤ daysInMonth year month

/-- Whether a text is a date, a time or both. -/
def isMoment (text : List Char) : Bool :=
  isDate text || isTime text ||
    (isDate (text.take 10) &&
      match text.drop 10 with
      | 'T' :: time => isTime time || isOffsetTime time
      | 't' :: time => isTime time || isOffsetTime time
      | _ => false)

def scalar? (text : List Char) : Option Toml :=
  if text = "true".toList then some (.boolean true)
  else if text = "false".toList then some (.boolean false)
  else match integer? text with
    | some value => if fitsWord value then some (.integer value) else none
    | none =>
        if isFractional text then some .fractional
        else if isMoment text then some .moment
        else none

/-- Read a word, number, date or time.  A date and a time may be separated by a
blank. -/
def readScalar (text : List Char) : Option (Toml × List Char) :=
  let word := text.takeWhile isScalarCharacter
  let rest := text.dropWhile isScalarCharacter
  let time := (rest.drop 1).takeWhile isScalarCharacter
  if isDate word ∧ rest.head? = some ' ' ∧ (isTime time ∨ isOffsetTime time) then
    some (.moment, (rest.drop 1).dropWhile isScalarCharacter)
  else
    (scalar? word).map fun value => (value, rest)

/-- Pass over a comment, up to the end of its line. -/
def skipComment (text : List Char) : Option (List Char) :=
  match text with
  | '#' :: comment =>
      let rest := comment.dropWhile fun character => !isControl character
      match rest with
      | [] => some []
      | '\n' :: _ => some rest
      | '\r' :: '\n' :: _ => some rest
      | _ => none
  | text => some text

def skipSpace : Nat → List Char → Option (List Char)
  | 0, text => some text
  | fuel + 1, text =>
      match skipBlanks text with
      | '\n' :: rest => skipSpace fuel rest
      | '\r' :: '\n' :: rest => skipSpace fuel rest
      | '#' :: rest => do skipSpace fuel (← skipComment ('#' :: rest))
      | rest => some rest

def replaceValue (key : String) (value : Toml) (entries : List (String × Toml)) :
    List (String × Toml) :=
  entries.map fun entry => if entry.1 = key then (key, value) else entry

/-- Whether a dotted key may pass through a table.  A table that was given a
header or closed is complete; a table that is only implied by a header may be
passed on the way, but not be given entries. -/
def isOpenTo (origin : TableOrigin) (furtherKeys : List String) : Bool :=
  match origin with
  | .implied => 1 < furtherKeys.length
  | .header => false
  | .dotted => true
  | .closed => false

/-- Put a value under a dotted key into a table.  Missing tables on the way are
made; of repeated tables the last is passed, but not given entries. -/
def assign (value : Toml) : List String → List (String × Toml) →
    Option (List (String × Toml))
  | [], _ => none
  | [key], entries =>
      match entries.lookup key with
      | some _ => none
      | none => some (entries ++ [(key, value)])
  | key :: keys, entries =>
      match entries.lookup key with
      | none => do
          let inner ← assign value keys []
          return entries ++ [(key, .table .dotted inner)]
      | some (.table origin inner) =>
          if isOpenTo origin keys then do
            let inner ← assign value keys inner
            return replaceValue key (.table origin inner) entries
          else
            none
      | some (.tables elements) =>
          match elements.getLast? with
          | some last =>
              if 1 < keys.length then do
                let inner ← assign value keys last
                return replaceValue key (.tables (elements.dropLast ++ [inner])) entries
              else
                none
          | none => none
      | some _ => none

mutual

/-- Read a value that may be nested so deep.  The fuel exceeds the length of the
text. -/
def readValue : Nat → Nat → List Char → Option (Toml × List Char)
  | 0, _, _ => none
  | fuel + 1, depth, text =>
      match text with
      | '[' :: text =>
          if depth = 0 then none
          else do
            let (elements, rest) ← readElements fuel (depth - 1) text
            return (.array elements, rest)
      | '\x7b' :: text =>
          if depth = 0 then none
          else do
            let (entries, rest) ← readEntries fuel (depth - 1) [] text
            return (.table .closed entries, rest)
      | text =>
          if text.head? = some '"' ∨ text.head? = some quote then do
            let (characters, rest) ← readString text
            return (.string (String.ofList characters), rest)
          else
            readScalar text

/-- Read the elements of an array up to its closing bracket. -/
def readElements : Nat → Nat → List Char → Option (List Toml × List Char)
  | 0, _, _ => none
  | fuel + 1, depth, text => do
      match ← skipSpace text.length text with
      | ']' :: rest => return ([], rest)
      | text => do
          let (element, rest) ← readValue fuel depth text
          match ← skipSpace rest.length rest with
          | ',' :: text => do
              let (elements, rest) ← readElements fuel depth text
              return (element :: elements, rest)
          | ']' :: rest => return ([element], rest)
          | _ => none

/-- Read the entries of a table up to its closing brace. -/
def readEntries : Nat → Nat → List (String × Toml) → List Char →
    Option (List (String × Toml) × List Char)
  | 0, _, _, _ => none
  | fuel + 1, depth, entries, text => do
      match ← skipSpace text.length text with
      | '\x7d' :: rest => return (entries, rest)
      | text => do
          let (key, rest) ← readKey text
          match rest with
          | '=' :: text => do
              let (value, rest) ← readValue fuel depth (skipBlanks text)
              let entries ← assign value key entries
              match ← skipSpace rest.length rest with
              | ',' :: text => readEntries fuel depth entries text
              | '\x7d' :: rest => return (entries, rest)
              | _ => none
          | _ => none

end

def readStatement (text : List Char) : Option (TomlStatement × List Char) :=
  match text with
  | '[' :: '[' :: text => do
      let (key, rest) ← readKey text
      match rest with
      | ']' :: ']' :: rest => return (.arrayHeader key, rest)
      | _ => none
  | '[' :: text => do
      let (key, rest) ← readKey text
      match rest with
      | ']' :: rest => return (.header key, rest)
      | _ => none
  | text => do
      let (key, rest) ← readKey text
      match rest with
      | '=' :: text => do
          let (value, rest) ← readValue (text.length + 1) maximalDepth (skipBlanks text)
          return (.assignment key value, rest)
      | _ => none

def readStatements : Nat → List Char → Option (List TomlStatement)
  | 0, _ => none
  | fuel + 1, text => do
      match ← skipSpace text.length text with
      | [] => return []
      | text => do
          let (statement, rest) ← readStatement text
          match ← skipComment (skipBlanks rest) with
          | [] => return [statement]
          | '\n' :: rest => do return statement :: (← readStatements fuel rest)
          | '\r' :: '\n' :: rest => do return statement :: (← readStatements fuel rest)
          | _ => none

/-- Change the table that a header names.  The tables on the way are made if they
are missing; of repeated tables the last is meant. -/
def within (change : List (String × Toml) → Option (List (String × Toml))) :
    List String → List (String × Toml) → Option (List (String × Toml))
  | [], entries => change entries
  | key :: keys, entries =>
      match entries.lookup key with
      | none => do
          let inner ← within change keys []
          return entries ++ [(key, .table .implied inner)]
      | some (.table origin inner) =>
          if origin = .closed then none
          else do
            let inner ← within change keys inner
            return replaceValue key (.table origin inner) entries
      | some (.tables elements) =>
          match elements.getLast? with
          | none => none
          | some last => do
              let inner ← within change keys last
              return replaceValue key (.tables (elements.dropLast ++ [inner])) entries
      | some _ => none

def openTable (key : String) (entries : List (String × Toml)) : Option (List (String × Toml)) :=
  match entries.lookup key with
  | none => some (entries ++ [(key, .table .header [])])
  | some (.table .implied inner) => some (replaceValue key (.table .header inner) entries)
  | some _ => none

/-- Add a table to the tables of a repeated header. -/
def openElement (key : String) (entries : List (String × Toml)) :
    Option (List (String × Toml)) :=
  match entries.lookup key with
  | none => some (entries ++ [(key, .tables [[]])])
  | some (.tables elements) => some (replaceValue key (.tables (elements ++ [[]])) entries)
  | some _ => none

/-- Carry out statements on the whole document, given the key of the table that
is open. -/
def build (openKey : List String) (entries : List (String × Toml)) :
    List TomlStatement → Option (List (String × Toml))
  | [] => some entries
  | .assignment key value :: statements => do
      let entries ← within (assign value key) openKey entries
      build openKey entries statements
  | .header key :: statements => do
      let entries ← within (openTable (key.getLast?.getD "")) key.dropLast entries
      build key entries statements
  | .arrayHeader key :: statements => do
      let entries ← within (openElement (key.getLast?.getD "")) key.dropLast entries
      build key entries statements

end TomlReader

/-- Read a TOML document as a table.  A byte order mark at its start is passed
over. -/
def Toml.parse? (text : String) : Option Toml := do
  let characters := match text.toList with
    | '\ufeff' :: rest => rest
    | characters => characters
  let statements ← TomlReader.readStatements (text.length + 1) characters
  let entries ← TomlReader.build [] [] statements
  return .table .header entries

end RowFunctions

import RowFunctions.TomlReader

/-!
# Printing TOML strings

A string is printed in the simplest of the forms that can hold it: in double
quotes if nothing has to be escaped, otherwise in single quotes, then in three
double or three single quotes, and at last with escapes in double quotes.
-/

namespace RowFunctions

namespace TomlPrinter

/-- The escape of a character that must not stand in double quotes, apart from
the quote itself. -/
def escape? (character : Char) : Option (List Char) :=
  if character = '\\' then some ['\\', '\\']
  else if character = '\n' then some ['\\', 'n']
  else if character = '\t' then some ['\\', 't']
  else if character = '\r' then some ['\\', 'r']
  else if character.toNat = 8 then some ['\\', 'b']
  else if character.toNat = 12 then some ['\\', 'f']
  else if character.toNat < 32 ∨ character.toNat = 127 then
    some ('\\' :: 'u' :: Hexadecimal.upperDigits 4 character.toNat)
  else none

/-- A text with escapes in which so many quotes may follow each other, given how
many came last.  An escape ends a run of quotes. -/
def escapeQuotes (limit : Nat) (run : Nat) (isRaw : Char → Bool) : List Char → List Char
  | [] => []
  | '"' :: rest =>
      if run < limit then '"' :: escapeQuotes limit (run + 1) isRaw rest
      else '\\' :: '"' :: escapeQuotes limit 0 isRaw rest
  | character :: rest =>
      let written := if isRaw character then none else escape? character
      written.getD [character] ++ escapeQuotes limit 0 isRaw rest

def longestRun (character : Char) (current : Nat) : List Char → Nat
  | [] => current
  | other :: rest =>
      if other = character then longestRun character (current + 1) rest
      else max current (longestRun character 0 rest)

/-- The quotes of a string that may go over several lines. -/
def longQuotes (quote : Char) : List Char := [quote, quote, quote]

/-- A text between quotes of a string that may go over several lines.  A text
with line ends starts on a line of its own. -/
def inLongQuotes (quote : Char) (hasLineEnd : Bool) (contents : List Char) : List Char :=
  longQuotes quote ++ (if hasLineEnd then ['\n'] else []) ++ contents ++ longQuotes quote

def basic (text : List Char) : List Char :=
  '"' :: (escapeQuotes 0 0 (fun _ => false) text ++ ['"'])

/-- A text in three double quotes, where line ends stand for themselves. -/
def longBasic (hasLineEnd : Bool) (text : List Char) : List Char :=
  inLongQuotes '"' hasLineEnd (escapeQuotes 2 0 (· == '\n') text)

def string (text : List Char) : List Char :=
  let quote := TomlReader.quote
  let hasCode := text.any fun character => character != '\n' && TomlReader.isControl character
  let hasBackslash := text.contains '\\'
  let hasLineEnd := text.contains '\n'
  let singleRun := longestRun quote 0 text
  let doubleRun := longestRun '"' 0 text
  if !hasCode && !hasBackslash && !hasLineEnd && doubleRun == 0 then
    basic text
  else if !hasCode && !hasLineEnd && singleRun == 0 then
    quote :: (text ++ [quote])
  else if !hasCode && !hasBackslash && doubleRun ≤ 2 then
    longBasic hasLineEnd text
  else if !hasCode && singleRun ≤ 2 then
    inLongQuotes quote hasLineEnd text
  else if hasLineEnd then
    longBasic hasLineEnd text
  else
    basic text

end TomlPrinter

end RowFunctions

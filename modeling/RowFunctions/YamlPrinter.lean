import RowFunctions.HexadecimalCodes
import RowFunctions.YamlScalars
import RowFunctions.YamlText

/-!
# Printing YAML strings

A string stands as it is if it cannot be taken for something else, otherwise in
single quotes; text with line feeds becomes a literal block.  What neither form
can hold is escaped in double quotes.
-/

namespace RowFunctions

namespace YamlPrinter

open YamlText

def isPrintable (character : Char) : Bool :=
  let code := character.toNat
  code == 10 || (32 ≤ code && code ≤ 126) ||
    (0xA0 ≤ code && code ≤ 0xFFFD && code != 0xFEFF) || 0x10000 ≤ code

def escapeLetter? (character : Char) : Option Char :=
  let code := character.toNat
  if character = '"' ∨ character = '\\' then some character
  else if code = 0 then some '0'
  else if code = 7 then some 'a'
  else if code = 8 then some 'b'
  else if code = 9 then some 't'
  else if code = 10 then some 'n'
  else if code = 11 then some 'v'
  else if code = 12 then some 'f'
  else if code = 13 then some 'r'
  else if code = 27 then some 'e'
  else if code = 0x85 then some 'N'
  else if code = 0x2028 then some 'L'
  else if code = 0x2029 then some 'P'
  else none

def escape (character : Char) : List Char :=
  let code := character.toNat
  match escapeLetter? character with
  | some letter => ['\\', letter]
  | none =>
      if isPrintable character then [character]
      else if code < 0x100 then '\\' :: 'x' :: Hexadecimal.upperDigits 2 code
      else if code < 0x10000 then '\\' :: 'u' :: Hexadecimal.upperDigits 4 code
      else '\\' :: 'U' :: Hexadecimal.upperDigits 8 code

/-- Whether a colon or a comment sign inside a text would end a plain scalar,
given whether a blank stands before the text. -/
def hasInnerMark (afterSpace : Bool) : List Char → Bool
  | [] => false
  | character :: rest =>
      (character == ':' && startsWithSpace rest) || (character == '#' && afterSpace) ||
        hasInnerMark (isSpace character) rest

/-- Whether the start of a text would be taken for a mark. -/
def hasLeadingMark (text : List Char) : Bool :=
  text.take 3 == ['-', '-', '-'] || text.take 3 == ['.', '.', '.'] ||
    match text with
    | [] => false
    | character :: rest =>
        isIndicator character ||
          ((character == '-' || character == '?' || character == ':') && startsWithSpace rest)

def hasNeighbours (first second : Char → Bool) (text : List Char) : Bool :=
  (text.zip text.tail).any fun pair => first pair.1 && second pair.2

/-- Whether all of a text may stand unescaped and no blank stands right before a
line end. -/
def canBeUnescaped (text : List Char) : Bool :=
  text.all isPrintable && !hasNeighbours (· == ' ') isBreak text

def canBePlain (text : List Char) : Bool :=
  canBeUnescaped text && !text.any isBreak && text.head? != some ' ' &&
    text.getLast? != some ' ' && !hasLeadingMark text && !hasInnerMark true text

def canBeSingle (text : List Char) : Bool :=
  canBeUnescaped text && !hasNeighbours isBreak (· == ' ') text

def canBeLiteral (text : List Char) : Bool :=
  canBeUnescaped text && text.getLast? != some ' '

/-- The indentation of lines that go on with a scalar. -/
def innerIndent : List Char := List.replicate 4 ' '

/-- A text as it stands in single quotes up to the closing one, where a quote is
written twice and lines are indented. -/
def singleBody (atLineStart : Bool) : List Char → List Char
  | [] => if atLineStart then innerIndent else []
  | character :: rest =>
      if isBreak character then
        character :: singleBody true rest
      else
        let written := if character = quote then [quote, quote] else [character]
        (if atLineStart then innerIndent else []) ++ written ++ singleBody false rest

def single (text : List Char) : List Char := quote :: (singleBody false text ++ [quote])

def double (text : List Char) : List Char := '"' :: (text.flatMap escape ++ ['"'])

/-- The lines of a block.  Empty lines are not indented, and the last line always
has an end. -/
def literalBody (atLineStart : Bool) : List Char → List Char
  | [] => if atLineStart then [] else ['\n']
  | character :: rest =>
      if isBreak character then
        character :: literalBody true rest
      else
        (if atLineStart then innerIndent else []) ++ character :: literalBody false rest

/-- The mark that gives the indentation of a block whose first line does not show
it. -/
def indentMark : List Char → List Char
  | [] => []
  | character :: _ => if character = ' ' ∨ isBreak character then ['2'] else []

/-- The mark that tells how many of the line ends at the end of a text are kept. -/
def chompMark (text : List Char) : List Char :=
  match text.reverse with
  | [] => ['-']
  | [last] => if isBreak last then ['+'] else ['-']
  | last :: previous :: _ =>
      if !isBreak last then ['-'] else if isBreak previous then ['+'] else []

def literal (text : List Char) : List Char :=
  '|' :: (indentMark text ++ chompMark text ++ '\n' :: literalBody true text)

/-- A text as the value of an indented entry, up to the end of its line.  Text
with line feeds becomes a literal block; text that could mean something else is
quoted. -/
def stringLine (text : List Char) : List Char :=
  if text.contains '\n' then
    if canBeLiteral text then literal text else double text ++ ['\n']
  else if !YamlScalar.isAmbiguous (String.ofList text) && canBePlain text then text ++ ['\n']
  else if canBeSingle text then single text ++ ['\n']
  else double text ++ ['\n']

end YamlPrinter

end RowFunctions

/-!
# YAML text

The classes of characters that YAML text is made of, and places in such a text.
All ways to end a line are first made equal, apart from the line and paragraph
separators, which stay what they are inside scalars.
-/

namespace RowFunctions

namespace YamlText

def quote : Char := Char.ofNat 39

/-- Whether a character may stand in a text at all. -/
def isAllowed (character : Char) : Bool :=
  let code := character.toNat
  code == 9 || code == 10 || code == 13 || (32 ≤ code && code ≤ 126) || code == 0x85 ||
    (0xA0 ≤ code && code ≤ 0xFFFD) || 0x10000 ≤ code

def isBreak (character : Char) : Bool :=
  let code := character.toNat
  code == 10 || code == 13 || code == 0x85 || code == 0x2028 || code == 0x2029

def isBlank (character : Char) : Bool := character == ' ' || character == '\t'

/-- Whether a character is a blank or ends a line. -/
def isSpace (character : Char) : Bool := isBlank character || isBreak character

/-- Whether a text is at its end or goes on with a blank or a new line. -/
def startsWithSpace (text : List Char) : Bool :=
  match text with
  | [] => true
  | character :: _ => isSpace character

def isFlowMark (character : Char) : Bool :=
  character == ',' || character == '[' || character == ']' || character == '\x7b' ||
    character == '\x7d'

/-- The characters that cannot start a plain scalar, wherever it stands. -/
def isIndicator (character : Char) : Bool :=
  isFlowMark character || ("#&*!|>\"%@".toList.contains character) ||
    character == quote || character.toNat == 96

/-- The characters of names: ASCII letters, digits, the hyphen and the underscore. -/
def isNameCharacter (character : Char) : Bool :=
  character.isAlphanum || character == '-' || character == '_'

/-- Whether a text starts with the mark before or after a document. -/
def startsWithMark (mark : Char) (text : List Char) : Bool :=
  text.take 3 == [mark, mark, mark] && startsWithSpace (text.drop 3)

/-- Write every line end as a line feed, apart from the separators. -/
def unifyBreaks : List Char → List Char
  | [] => []
  | '\r' :: '\n' :: rest => '\n' :: unifyBreaks rest
  | '\r' :: rest => '\n' :: unifyBreaks rest
  | '\u0085' :: rest => '\n' :: unifyBreaks rest
  | character :: rest => character :: unifyBreaks rest

/-- What line ends between two words of a scalar mean: a single line feed is a
blank, and the first of several is left out. -/
def foldBreaks : List Char → List Char
  | ['\n'] => [' ']
  | '\n' :: breaks => breaks
  | breaks => breaks

/-- What blanks and line ends between two words of a scalar mean.  Blanks beside
line ends are left out. -/
def foldSpace (space : List Char) : List Char :=
  match space.filter isBreak with
  | [] => space
  | breaks => foldBreaks breaks

end YamlText

/-- A place in a text: what follows it, and its line and column. -/
structure YamlPlace where
  text : List Char
  line : Nat
  column : Nat

namespace YamlPlace

def start (text : List Char) : YamlPlace := ⟨text, 0, 0⟩

def next (place : YamlPlace) : YamlPlace :=
  match place.text with
  | [] => place
  | character :: rest =>
      if YamlText.isBreak character then ⟨rest, place.line + 1, 0⟩
      else ⟨rest, place.line, place.column + 1⟩

def skip (place : YamlPlace) : Nat → YamlPlace
  | 0 => place
  | count + 1 => place.next.skip count

/-- The characters up to the first one without a property. -/
def leading (place : YamlPlace) (property : Char → Bool) : List Char :=
  place.text.takeWhile property

def skipWhile (place : YamlPlace) (property : Char → Bool) : YamlPlace :=
  place.skip (place.leading property).length

def isAt (place : YamlPlace) (character : Char) : Bool := place.text.head? == some character

/-- Whether the mark before or after a document stands here. -/
def isAtDocumentMark (place : YamlPlace) : Bool :=
  place.column == 0 &&
    (YamlText.startsWithMark '-' place.text || YamlText.startsWithMark '.' place.text)

/-- The place after blanks, a comment and the end of the line, if nothing else
is left of the line. -/
def finishLine? (place : YamlPlace) : Option YamlPlace :=
  let place := place.skipWhile YamlText.isBlank
  let place := if place.isAt '#' then place.skipWhile (!YamlText.isBreak ·) else place
  match place.text with
  | [] => some place
  | character :: _ => if YamlText.isBreak character then some place.next else none

end YamlPlace

end RowFunctions

import RowFunctions.HexadecimalCodes
import RowFunctions.IntegerNumerals
import RowFunctions.YamlText

/-!
# Reading YAML scalars

A scalar is plain, in single or double quotes, or a block of lines.  Plain and
quoted scalars are sequences of words; the blanks and line ends between the
words are folded.  A block keeps its line ends, or folds those between lines
that start without a blank.
-/

namespace RowFunctions

namespace YamlScalarReader

open YamlText

def startsPlain (inFlow : Bool) : List Char → Bool
  | [] => false
  | '-' :: rest => !startsWithSpace rest
  | '?' :: rest => !inFlow && !startsWithSpace rest
  | ':' :: rest => !inFlow && !startsWithSpace rest
  | character :: _ => !isSpace character && !isIndicator character

/-- Whether a text goes on with a character that must not follow a colon in a
flow collection. -/
def startsWithFlowStop (text : List Char) : Bool :=
  match text with
  | [] => false
  | character :: _ => character == '?' || (isFlowMark character)

/-- Read a word of a plain scalar.  It ends before a colon with a blank behind
it, and in flow collections before their marks. -/
def readPlainWord (inFlow : Bool) : List Char → Option (List Char)
  | [] => some []
  | character :: rest =>
      if isSpace character ∨ (character = ':' ∧ startsWithSpace rest) ∨
          (inFlow ∧ isFlowMark character) then
        some []
      else if inFlow ∧ character = ':' ∧ startsWithFlowStop rest then
        none
      else
        (readPlainWord inFlow rest).map (character :: ·)

/-- Whether a tab stands in the indentation of a line, before a given column. -/
def hasTabBefore (depth : Nat) (atLineStart : Bool) (column : Nat) : List Char → Bool
  | [] => false
  | character :: rest =>
      if isBreak character then
        hasTabBefore depth true 0 rest
      else
        (atLineStart && character == '\t' && column < depth) ||
          hasTabBefore depth atLineStart (column + 1) rest

/-- A scalar that was read, and the place behind it.  It is open when the last
word of a plain scalar has line ends behind it. -/
structure Reading where
  contents : List Char
  isOpen : Bool
  place : YamlPlace

/-- Read the words of a plain scalar inside a parent whose parts are indented at
least so deep.  The fuel exceeds the length of the text. -/
def readPlain (inFlow : Bool) (depth : Nat) : Nat → YamlPlace → Option Reading
  | 0, _ => none
  | fuel + 1, place => do
      if place.isAtDocumentMark ∨ place.isAt '#' then
        return ⟨[], false, place⟩
      else
        let word ← readPlainWord inFlow place.text
        let afterWord := place.skip word.length
        let space := afterWord.leading isSpace
        let afterSpace := afterWord.skip space.length
        if space = [] then
          return ⟨word, false, afterWord⟩
        else if hasTabBefore depth false 0 space then
          none
        else if !inFlow ∧ afterSpace.column < depth then
          return ⟨word, space.any isBreak, afterSpace⟩
        else
          let rest ← readPlain inFlow depth fuel afterSpace
          if rest.contents = [] then
            return ⟨word, space.any isBreak, rest.place⟩
          else
            return ⟨word ++ foldSpace space ++ rest.contents, rest.isOpen, rest.place⟩

def escaped? : Char → Option Char
  | '0' => some '\x00'
  | 'a' => some '\x07'
  | 'b' => some '\x08'
  | 't' => some '\t'
  | '\t' => some '\t'
  | 'n' => some '\n'
  | 'v' => some '\x0b'
  | 'f' => some '\x0c'
  | 'r' => some '\r'
  | 'e' => some '\x1b'
  | ' ' => some ' '
  | '"' => some '"'
  | '/' => some '/'
  | '\\' => some '\\'
  | 'N' => some '\u0085'
  | '_' => some '\u00a0'
  | 'L' => some '\u2028'
  | 'P' => some '\u2029'
  | _ => none

/-- The number of hexadecimal digits after an escape letter. -/
def escapeSize? : Char → Option Nat
  | 'x' => some 2
  | 'u' => some 4
  | 'U' => some 8
  | _ => none

/-- Read an escape after its backslash: its character and its length. -/
def readEscape : List Char → Option (Char × Nat)
  | [] => none
  | letter :: rest =>
      match escapeSize? letter with
      | some size =>
          (Hexadecimal.leadingCharacter? size rest).map fun character => (character, size + 1)
      | none => (escaped? letter).map fun character => (character, 1)

/-- Read a word of a scalar in double quotes, up to a blank, a line end or the
closing quote.  It is open when it ends with an escaped line end. -/
def readDoubleWord : Nat → YamlPlace → Option Reading
  | 0, _ => none
  | fuel + 1, place =>
      match place.text with
      | [] => some ⟨[], false, place⟩
      | '"' :: _ => some ⟨[], false, place⟩
      | '\\' :: rest =>
          if (rest.head?.map isBreak).getD false then
            some ⟨[], true, place.skip 2⟩
          else do
            let (character, size) ← readEscape rest
            let more ← readDoubleWord fuel (place.skip (size + 1))
            return ⟨character :: more.contents, more.isOpen, more.place⟩
      | character :: _ =>
          if isSpace character then
            some ⟨[], false, place⟩
          else do
            let more ← readDoubleWord fuel place.next
            return ⟨character :: more.contents, more.isOpen, more.place⟩

/-- Read a word of a scalar in single quotes, where a quote is written twice. -/
def readSingleWord : Nat → YamlPlace → Option Reading
  | 0, _ => none
  | fuel + 1, place =>
      match place.text with
      | [] => some ⟨[], false, place⟩
      | character :: rest =>
          if character = quote ∧ rest.head? = some quote then do
            let more ← readSingleWord fuel (place.skip 2)
            return ⟨quote :: more.contents, false, more.place⟩
          else if character = quote ∨ isSpace character then
            some ⟨[], false, place⟩
          else do
            let more ← readSingleWord fuel place.next
            return ⟨character :: more.contents, false, more.place⟩

def readQuotedWord (mark : Char) (fuel : Nat) (place : YamlPlace) : Option Reading :=
  if mark = quote then readSingleWord fuel place else readDoubleWord fuel place

/-- Read the words of a quoted scalar up to its closing quote.  No document may
start or end inside.  After an escaped line end all further ones are kept.  The
fuel exceeds the length of the text. -/
def readQuoted (mark : Char) : Nat → YamlPlace → Option Reading
  | 0, _ => none
  | fuel + 1, place => do
      if place.isAtDocumentMark ∨ place.text = [] then
        none
      else
        let word ← readQuotedWord mark (fuel + 1) place
        if word.place.isAt mark then
          return ⟨word.contents, false, word.place.next⟩
        else
          let space := word.place.leading isSpace
          let gap := if word.isOpen then space.filter isBreak else foldSpace space
          let rest ← readQuoted mark fuel (word.place.skip space.length)
          return ⟨word.contents ++ gap ++ rest.contents, false, rest.place⟩

/-- How the line ends at the end of a block are kept. -/
inductive Chomping where
  | strip
  | clip
  | keep
deriving DecidableEq

def chomping? : Char → Option Chomping
  | '-' => some .strip
  | '+' => some .keep
  | _ => none

/-- Read the marks of a block: its chomping and its indentation, where zero
stands for one that is not given.  They may stand in either order. -/
def readBlockMarks (place : YamlPlace) : Option (Chomping × Nat × YamlPlace) :=
  let first := place.text.head?
  let second := place.text.tail.head?
  match first.bind chomping?, first.bind Digit.ofChar? with
  | some chomping, _ =>
      match second.bind Digit.ofChar? with
      | some digit => if digit.val = 0 then none else some (chomping, digit.val, place.skip 2)
      | none => some (chomping, 0, place.next)
  | none, some digit =>
      if digit.val = 0 then none
      else match second.bind chomping? with
        | some chomping => some (chomping, digit.val, place.skip 2)
        | none => some (.clip, digit.val, place.next)
  | none, none => some (.clip, 0, place)

/-- Pass over the indentation of a line, up to a given depth unless it is zero. -/
def skipIndent (depth : Nat) (place : YamlPlace) : YamlPlace :=
  let spaces := (place.leading (· == ' ')).length
  place.skip (if depth = 0 then spaces else min spaces (depth - place.column))

/-- The empty lines before a line of a block. -/
structure EmptyLines where
  breaks : List Char
  deepest : Nat
  place : YamlPlace

/-- Read empty lines, indented at most so deep unless the depth is zero, and the
indentation of the line behind them. -/
def readEmptyLines (depth : Nat) : Nat → YamlPlace → Option EmptyLines
  | 0, _ => none
  | fuel + 1, place =>
      let place := skipIndent depth place
      match place.text with
      | [] => some ⟨[], place.column, place⟩
      | character :: _ =>
          if character = '\t' ∧ (depth = 0 ∨ place.column < depth) then
            none
          else if isBreak character then do
            let rest ← readEmptyLines depth fuel place.next
            return ⟨character :: rest.breaks, max place.column rest.deepest, rest.place⟩
          else
            some ⟨[], place.column, place⟩

def joinLines (folded : Bool) (lastBreak breaks : List Char) : List Char :=
  if folded ∧ lastBreak = ['\n'] then
    if breaks = [] then [' '] else breaks
  else
    lastBreak ++ breaks

/-- The lines of a block, and the line ends behind the last one. -/
structure BlockLines where
  contents : List Char
  lastBreak : List Char
  breaks : List Char
  place : YamlPlace

/-- Read the lines of a block that are indented so deep, given the end of the
line before, the line ends after that and whether the line before starts with a
blank. -/
def readBlockLines (folded : Bool) (depth : Nat) :
    Nat → List Char → List Char → Bool → YamlPlace → Option BlockLines
  | 0, _, _, _, _ => none
  | fuel + 1, lastBreak, breaks, afterBlank, place =>
      if place.column ≠ depth ∨ place.text = [] then
        some ⟨[], lastBreak, breaks, place⟩
      else do
        let startsBlank := (place.text.head?.map YamlText.isBlank).getD false
        let line := place.leading (!isBreak ·)
        let afterLine := place.skip line.length
        let lines ← readEmptyLines depth (fuel + 1) afterLine.next
        let rest ← readBlockLines folded depth fuel (afterLine.text.take 1) lines.breaks
          startsBlank lines.place
        let joint := joinLines (folded && !afterBlank && !startsBlank) lastBreak breaks
        return { rest with contents := joint ++ line ++ rest.contents }

/-- The line ends at the end of a block that are kept. -/
def chomp (chomping : Chomping) (lines : BlockLines) : List Char :=
  match chomping with
  | .strip => []
  | .clip => lines.lastBreak
  | .keep => lines.lastBreak ++ lines.breaks

/-- Read a block after its first mark, inside a parent that is indented so deep,
if there is one. -/
def readBlock (folded : Bool) (parent : Option Nat) (place : YamlPlace) : Option Reading := do
  let fuel := place.text.length + 1
  let (chomping, given, afterMarks) ← readBlockMarks place
  let body ← afterMarks.finishLine?
  let givenDepth := if given = 0 then 0 else parent.getD 0 + given
  let empty ← readEmptyLines givenDepth fuel body
  let least := match parent with
    | some indent => indent + 1
    | none => 1
  let depth := if given = 0 then max empty.deepest least else givenDepth
  let lines ← readBlockLines folded depth fuel [] empty.breaks false empty.place
  return ⟨lines.contents ++ chomp chomping lines, false, lines.place⟩

end YamlScalarReader

end RowFunctions

import RowFunctions.CaseTables

/-!
# Lowercasing of Unicode text

Every character has a lowercase form of its own, which is one character except
for the capital I with a dot, which becomes two.  Only the capital sigma looks
at its surroundings: it takes its final form at the end of a word, that is, when
the nearest character before it that is not case-ignorable is cased and the
nearest such character after it is not.
-/

namespace RowFunctions

namespace Lowercasing

/-- Whether a character has upper, lower or title case. -/
def isCased (character : Char) : Bool := inRanges casedRanges character.toNat

/-- Whether a character is passed over in search of a cased one. -/
def isCaseIgnorable (character : Char) : Bool :=
  inRanges caseIgnorableRanges character.toNat

/-- The lowercase form of a single character, without regard to its surroundings. -/
def ofChar (character : Char) : List Char :=
  if character = 'İ' then
    ['i', '\u0307']
  else
    match lowercaseRuns.find? fun run => run.covers character.toNat with
    | some run => [Char.ofNat (character.toNat + run.offset).toNat]
    | none => [character]

/-- Whether the first character that is not case-ignorable exists and is cased. -/
def meetsCased (characters : List Char) : Bool :=
  match characters.dropWhile isCaseIgnorable with
  | character :: _ => isCased character
  | [] => false

/-- Whether a sigma ends its word, given the characters before it (nearest
first) and those after it. -/
def endsWord (before after : List Char) : Bool :=
  meetsCased before && !meetsCased after

/-- Lowercase the rest of a text, given the characters before it, nearest first. -/
def ofListAfter (before : List Char) : List Char → List Char
  | [] => []
  | character :: rest =>
      let lowered :=
        if character = 'Σ' then
          if endsWord before rest then ['ς'] else ['σ']
        else
          ofChar character
      lowered ++ ofListAfter (character :: before) rest

def ofList (characters : List Char) : List Char := ofListAfter [] characters

def ofString (text : String) : String := String.ofList (ofList text.toList)

end Lowercasing

end RowFunctions

import RowFunctions.HexadecimalCodes
import RowFunctions.IntegerNumerals
import RowFunctions.YamlText

/-!
# Reading YAML tags and directives

A tag is written in full between angle brackets, or as a handle followed by the
rest of its name.  A directive at the start of a text may give a handle its
meaning, or name the version of YAML that the text is written in.
-/

namespace RowFunctions

/-- What the directives of a text say. -/
structure YamlDirectives where
  namesVersion : Bool
  handles : List (String × String)

namespace YamlDirectives

def initial : YamlDirectives := ⟨false, []⟩

def meaning? (directives : YamlDirectives) (handle : String) : Option String :=
  (directives.handles ++ [("!", "!"), ("!!", "tag:yaml.org,2002:")]).lookup handle

end YamlDirectives

namespace YamlTagReader

open YamlText

/-- Whether a character may stand in the name of a tag.  Between angle brackets
a few more may. -/
def isTagCharacter (bracketed : Bool) (character : Char) : Bool :=
  isNameCharacter character || ";/?:@&=+$.%!~*()".toList.contains character ||
    character == quote ||
    (bracketed && (character == ',' || character == '[' || character == ']'))

/-- The octet that a percent sign and two digits at the start of a text give. -/
def octet? : List Char → Option Nat
  | '%' :: high :: low :: _ => Hexadecimal.number? [high, low]
  | _ => none

/-- The number of octets that follow the first one of a character. -/
def furtherOctets? (octet : Nat) : Option Nat :=
  if octet < 0x80 then some 0
  else if octet < 0xC0 then none
  else if octet < 0xE0 then some 1
  else if octet < 0xF0 then some 2
  else if octet < 0xF8 then some 3
  else none

/-- Whether a text starts with so many further octets of a character. -/
def startsWithOctets : Nat → List Char → Bool
  | 0, _ => true
  | count + 1, text =>
      match octet? text with
      | some octet => 0x80 ≤ octet && octet < 0xC0 && startsWithOctets count (text.drop 3)
      | none => false

/-- Read the name of a tag, or a part of it: its characters and the text behind
it.  Percent signs introduce the octets of characters, which are kept one by
one. -/
def readName (bracketed : Bool) : Nat → List Char → Option (List Char × List Char)
  | 0, _ => none
  | _, [] => some ([], [])
  | fuel + 1, character :: text =>
      if character = '%' then do
        let octet ← octet? (character :: text)
        let further ← furtherOctets? octet
        if startsWithOctets further (text.drop 2) then
          let octets := (List.range (further + 1)).filterMap fun index =>
            (octet? ((character :: text).drop (3 * index))).map Char.ofNat
          let (characters, rest) ← readName bracketed fuel (text.drop (3 * further + 2))
          return (octets ++ characters, rest)
        else
          none
      else if isTagCharacter bracketed character then do
        let (characters, rest) ← readName bracketed fuel text
        return (character :: characters, rest)
      else
        some ([], character :: text)

def readFullName (bracketed : Bool) (text : List Char) : Option (List Char × List Char) :=
  match readName bracketed (text.length + 1) text with
  | some ([], _) => none
  | reading => reading

/-- Read a tag after its exclamation mark, given the directives: its full name
and the text behind it. -/
def readTagText (directives : YamlDirectives) (text : List Char) :
    Option (String × List Char) :=
  let word := text.takeWhile isNameCharacter
  if text.head? = some '<' then
    match readFullName true text.tail with
    | some (name, '>' :: rest) => some (String.ofList name, rest)
    | _ => none
  else if (text.drop word.length).head? = some '!' then do
    let (name, rest) ← readFullName false (text.drop (word.length + 1))
    let meaning ← directives.meaning? (String.ofList ('!' :: (word ++ ['!'])))
    return (meaning ++ String.ofList name, rest)
  else do
    let (name, rest) ← readName false (text.length + 1) text
    if name = [] then
      return ("!", rest)
    else
      let meaning ← directives.meaning? "!"
      return (meaning ++ String.ofList name, rest)

/-- Read a tag.  A blank, a line end or, in flow collections, a comma has to
follow. -/
def readTag (directives : YamlDirectives) (inFlow : Bool) (place : YamlPlace) :
    Option (String × YamlPlace) := do
  let (name, rest) ← readTagText directives place.text.tail
  if startsWithSpace rest ∨ (inFlow ∧ rest.head? = some ',') then
    return (name, place.skip (place.text.length - rest.length))
  else
    none

/-- Whether a character may stand right behind the name of an anchor. -/
def endsAnchor (text : List Char) : Bool :=
  startsWithSpace text ||
    (text.head?.map fun character =>
      "?:,]%@".toList.contains character || character == '\x7d' ||
        character.toNat == 96).getD false

def readAnchor (place : YamlPlace) : Option (String × YamlPlace) :=
  let name := place.leading isNameCharacter
  let after := place.skip name.length
  if name = [] ∨ !endsAnchor after.text then none else some (String.ofList name, after)

/-- Read a number of a version, of nine digits at most. -/
def readVersionNumber (text : List Char) : Option (Nat × List Char) :=
  match Digit.span text with
  | ([], _) => none
  | (digits, rest) => if 9 < digits.length then none else some (Digit.value digits, rest)

/-- Read a version that can be read: 1.1 or 1.2. -/
def readVersion (text : List Char) : Option (List Char) := do
  let (major, rest) ← readVersionNumber text
  match rest with
  | '.' :: rest => do
      let (minor, rest) ← readVersionNumber rest
      if major = 1 ∧ (minor = 1 ∨ minor = 2) then some rest else none
  | _ => none

/-- Read a handle and its meaning, with blanks between them. -/
def readHandle (text : List Char) : Option (String × String × List Char) :=
  match text with
  | '!' :: text => do
      let word := text.takeWhile isNameCharacter
      let afterWord := text.drop word.length
      let isShort := word = [] ∧ afterWord.head? ≠ some '!'
      if !isShort ∧ afterWord.head? ≠ some '!' then
        none
      else
        let handle := if isShort then "!" else String.ofList ('!' :: (word ++ ['!']))
        let afterHandle := if isShort then afterWord else afterWord.tail
        if (afterHandle.head?.map YamlText.isBlank).getD false then
          let (meaning, rest) ← readFullName true (afterHandle.dropWhile YamlText.isBlank)
          if startsWithSpace rest then some (handle, String.ofList meaning, rest) else none
        else
          none
  | _ => none

/-- Read the name of a directive and what belongs to it, after its percent sign. -/
def readDirectiveText (directives : YamlDirectives) (text : List Char) :
    Option (YamlDirectives × List Char) :=
  let name := String.ofList (text.takeWhile isNameCharacter)
  let afterName := text.dropWhile isNameCharacter
  if !startsWithSpace afterName then
    none
  else if name = "YAML" then
    if directives.namesVersion then none
    else (readVersion (afterName.dropWhile YamlText.isBlank)).map fun rest =>
      (⟨true, directives.handles⟩, rest)
  else if name = "TAG" then do
    let (handle, meaning, rest) ← readHandle (afterName.dropWhile YamlText.isBlank)
    if (directives.handles.lookup handle).isSome then none
    else return (⟨directives.namesVersion, directives.handles ++ [(handle, meaning)]⟩, rest)
  else
    none

/-- Read a directive, which fills its line.  The version may be named only once,
and no handle may be given two meanings. -/
def readDirective (directives : YamlDirectives) (place : YamlPlace) :
    Option (YamlDirectives × YamlPlace) := do
  let (directives, rest) ← readDirectiveText directives place.text.tail
  let place ← (place.skip (place.text.length - rest.length)).finishLine?
  return (directives, place)

end YamlTagReader

end RowFunctions

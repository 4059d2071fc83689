import RowFunctions.YamlScalarReader
import RowFunctions.YamlTagReader
import RowFunctions.YamlTokens

/-!
# Reading YAML tokens

The tokens are read in one pass over the text.  Block collections follow from
the columns at which entries and keys start.  Whether something is a key shows
only at the colon behind it, so its place among the tokens is remembered from
its start on, and the token that announces it is put in when all tokens have
been read.  Such a key lies on one line and has at most 1024 characters; where
only a key can stand, its colon must not be missing.
-/

namespace RowFunctions

/-- Something that a colon would make a key: the number of tokens before it, its
place in the text, and whether nothing else can stand there. -/
structure YamlKeyCandidate where
  position : Nat
  line : Nat
  column : Nat
  isRequired : Bool

namespace YamlKeyCandidate

def maximalLength : Nat := 1024

/-- Whether a candidate can still become a key at a place behind it. -/
def isFresh (candidate : YamlKeyCandidate) (place : YamlPlace) : Bool :=
  candidate.line == place.line && place.column ≤ candidate.column + maximalLength

/-- A candidate as it stands at a place behind it.  A required key must not be
given up. -/
def refresh? (place : YamlPlace) :
    Option YamlKeyCandidate → Option (Option YamlKeyCandidate)
  | none => some none
  | some candidate =>
      if candidate.isFresh place then some (some candidate)
      else if candidate.isRequired then none
      else some none

end YamlKeyCandidate

/-- The place of a key among the tokens, and whether a block mapping starts with
it. -/
structure YamlKeyMark where
  position : Nat
  startsMapping : Bool

/-- The state of reading: the place in the text, the tokens so far, the last one
first, and the keys found among them; the columns of the open block collections,
the innermost first; the candidate for a key, and those outside of the open flow
collections, of which there is one for each; whether a candidate may start here;
the names of the anchors with their numbers; and the directives. -/
structure YamlTokenReader where
  place : YamlPlace
  tokens : List YamlToken
  keys : List YamlKeyMark
  columns : List Nat
  candidate : Option YamlKeyCandidate
  outerCandidates : List (Option YamlKeyCandidate)
  allowsKey : Bool
  anchors : List (String × Nat)
  directives : YamlDirectives

namespace YamlTokenReader

open YamlText

def start (place : YamlPlace) : YamlTokenReader where
  place := place
  tokens := []
  keys := []
  columns := []
  candidate := none
  outerCandidates := []
  allowsKey := true
  anchors := []
  directives := .initial

def inFlow (reader : YamlTokenReader) : Bool := !reader.outerCandidates.isEmpty

def add (reader : YamlTokenReader) (token : YamlToken) : YamlTokenReader :=
  { reader with tokens := token :: reader.tokens }

def moveTo (reader : YamlTokenReader) (place : YamlPlace) : YamlTokenReader :=
  { reader with place := place }

def allowKey (reader : YamlTokenReader) (allowed : Bool) : YamlTokenReader :=
  { reader with allowsKey := allowed }

/-- Whether a column lies deeper than the open block collections. -/
def isDeeper (reader : YamlTokenReader) (column : Nat) : Bool :=
  match reader.columns with
  | [] => true
  | innermost :: _ => innermost < column

/-- Start a block collection at a column, unless the innermost one has it already
or a flow collection is open. -/
def openBlock (reader : YamlTokenReader) (column : Nat) (token : YamlToken) :
    YamlTokenReader :=
  if !reader.inFlow && reader.isDeeper column then
    { reader with columns := column :: reader.columns, tokens := token :: reader.tokens }
  else
    reader

def closeBlocksWhile (reader : YamlTokenReader) (isClosed : Nat → Bool) : YamlTokenReader :=
  if reader.inFlow then
    reader
  else
    let closed := reader.columns.takeWhile isClosed
    { reader with
      columns := reader.columns.drop closed.length
      tokens := List.replicate closed.length YamlToken.blockEnd ++ reader.tokens }

/-- End the block collections that lie deeper than a column. -/
def closeDeeper (reader : YamlTokenReader) (column : Nat) : YamlTokenReader :=
  reader.closeBlocksWhile (column < ·)

def closeAll (reader : YamlTokenReader) : YamlTokenReader :=
  reader.closeBlocksWhile fun _ => true

/-- Give up the candidate for a key, unless it is required. -/
def dropCandidate? (reader : YamlTokenReader) : Option YamlTokenReader :=
  match reader.candidate with
  | some candidate =>
      if candidate.isRequired then none else some { reader with candidate := none }
  | none => some reader

def noteCandidate? (reader : YamlTokenReader) : Option YamlTokenReader :=
  if reader.allowsKey then do
    let reader ← reader.dropCandidate?
    let column := reader.place.column
    let isRequired := !reader.inFlow && reader.columns.head? == some column
    return { reader with
      candidate := some ⟨reader.tokens.length, reader.place.line, column, isRequired⟩ }
  else
    some reader

def refresh? (reader : YamlTokenReader) : Option YamlTokenReader := do
  let candidate ← YamlKeyCandidate.refresh? reader.place reader.candidate
  let outer ← reader.outerCandidates.mapM (YamlKeyCandidate.refresh? reader.place)
  return { reader with candidate := candidate, outerCandidates := outer }

/-- Pass over blanks, comments and line ends.  Tabs are blanks only where no key
can start.  The fuel exceeds the length of the text. -/
def skipSpace : Nat → YamlTokenReader → YamlTokenReader
  | 0, reader => reader
  | fuel + 1, reader =>
      let takesTabs := reader.inFlow || !reader.allowsKey
      let place := reader.place.skipWhile fun character =>
        character == ' ' || (takesTabs && character == '\t')
      let place := if place.isAt '#' then place.skipWhile (!isBreak ·) else place
      match place.text with
      | [] => reader.moveTo place
      | character :: _ =>
          if isBreak character then
            skipSpace fuel ((reader.moveTo place.next).allowKey
              (reader.allowsKey || !reader.inFlow))
          else
            reader.moveTo place

/-- Read a directive, or a mark before or after a document. -/
def readDocumentLine (reader : YamlTokenReader) : Option YamlTokenReader := do
  let reader ← reader.closeAll.dropCandidate?
  let reader := reader.allowKey false
  if reader.place.isAt '%' then
    let (directives, place) ← YamlTagReader.readDirective reader.directives reader.place
    return { (reader.add .directive).moveTo place with directives := directives }
  else
    let token := if reader.place.isAt '-' then YamlToken.documentStart else .documentEnd
    return (reader.add token).moveTo (reader.place.skip 3)

def openFlow (reader : YamlTokenReader) (token : YamlToken) : Option YamlTokenReader := do
  let reader ← reader.noteCandidate?
  return { (reader.add token).moveTo reader.place.next with
    candidate := none
    outerCandidates := reader.candidate :: reader.outerCandidates
    allowsKey := true }

def closeFlow (reader : YamlTokenReader) (token : YamlToken) : Option YamlTokenReader := do
  let reader ← reader.dropCandidate?
  return { (reader.add token).moveTo reader.place.next with
    candidate := reader.outerCandidates.head?.join
    outerCandidates := reader.outerCandidates.tail
    allowsKey := false }

/-- Read the comma in a flow collection. -/
def readFlowEntry (reader : YamlTokenReader) : Option YamlTokenReader := do
  let reader ← reader.dropCandidate?
  return ((reader.add .flowEntry).moveTo reader.place.next).allowKey true

/-- Start a block collection at this column, if a key could start here. -/
def openBlockHere? (reader : YamlTokenReader) (token : YamlToken) : Option YamlTokenReader :=
  if reader.inFlow ∨ reader.allowsKey then
    some (reader.openBlock reader.place.column token)
  else
    none

/-- Read the hyphen of an entry. -/
def readBlockEntry (reader : YamlTokenReader) : Option YamlTokenReader := do
  let reader ← reader.openBlockHere? .blockSequenceStart
  let reader ← reader.dropCandidate?
  return ((reader.add .blockEntry).moveTo reader.place.next).allowKey true

/-- Read the question mark before a key. -/
def readKeyMark (reader : YamlTokenReader) : Option YamlTokenReader := do
  let reader ← reader.openBlockHere? .blockMappingStart
  let reader ← reader.dropCandidate?
  return ((reader.add .key).moveTo reader.place.next).allowKey !reader.inFlow

/-- Read the colon before a value.  The candidate for a key becomes one. -/
def readValueMark (reader : YamlTokenReader) : Option YamlTokenReader := do
  let reader ←
    match reader.candidate with
    | some candidate =>
        let startsMapping := !reader.inFlow && reader.isDeeper candidate.column
        pure { reader with
          keys := ⟨candidate.position, startsMapping⟩ :: reader.keys
          columns :=
            if startsMapping then candidate.column :: reader.columns else reader.columns
          candidate := none
          allowsKey := false }
    | none => do
        let reader ← reader.openBlockHere? .blockMappingStart
        pure (reader.allowKey !reader.inFlow)
  return (reader.add .value).moveTo reader.place.next

/-- Read an anchor.  It gets the number of names known before. -/
def readAnchor (reader : YamlTokenReader) : Option YamlTokenReader := do
  let reader ← reader.noteCandidate?
  let (name, place) ← YamlTagReader.readAnchor reader.place.next
  let number := reader.anchors.length
  let others := reader.anchors.filter fun anchor => anchor.1 != name
  return { ((reader.add (.anchor number)).moveTo place).allowKey false with
    anchors := (name, number) :: others }

def readReference (reader : YamlTokenReader) : Option YamlTokenReader := do
  let reader ← reader.noteCandidate?
  let (name, place) ← YamlTagReader.readAnchor reader.place.next
  let number ← reader.anchors.lookup name
  return ((reader.add (.reference number)).moveTo place).allowKey false

def readTag (reader : YamlTokenReader) : Option YamlTokenReader := do
  let reader ← reader.noteCandidate?
  let (name, place) ← YamlTagReader.readTag reader.directives reader.inFlow reader.place
  return ((reader.add (.tag name)).moveTo place).allowKey false

def addScalar (reader : YamlTokenReader) (style : YamlStyle)
    (reading : YamlScalarReader.Reading) : YamlTokenReader :=
  (reader.add (.scalar style (String.ofList reading.contents))).moveTo reading.place

def readBlock (reader : YamlTokenReader) (style : YamlStyle) : Option YamlTokenReader := do
  let reader ← reader.dropCandidate?
  let reading ← YamlScalarReader.readBlock (style == .folded) reader.columns.head?
    reader.place.next
  return (reader.addScalar style reading).allowKey true

def readQuoted (reader : YamlTokenReader) (mark : Char) : Option YamlTokenReader := do
  let reader ← reader.noteCandidate?
  let start := reader.place.next
  let reading ← YamlScalarReader.readQuoted mark (start.text.length + 1) start
  return (reader.addScalar .quoted reading).allowKey false

/-- The least column of what belongs to the innermost block collection. -/
def innerColumn (reader : YamlTokenReader) : Nat :=
  match reader.columns with
  | [] => 0
  | innermost :: _ => innermost + 1

/-- Read a plain scalar.  A key may start behind it if it ends its line. -/
def readPlain (reader : YamlTokenReader) : Option YamlTokenReader := do
  let reader ← reader.noteCandidate?
  let reading ← YamlScalarReader.readPlain reader.inFlow reader.innerColumn
    (reader.place.text.length + 1) reader.place
  return (reader.addScalar .plain reading).allowKey reading.isOpen

def readToken (reader : YamlTokenReader) (character : Char) (rest : List Char) :
    Option YamlTokenReader :=
  let marksBlock := startsWithSpace rest
  if reader.place.column = 0 ∧ (character = '%' ∨ reader.place.isAtDocumentMark) then
    reader.readDocumentLine
  else if character = '[' then reader.openFlow .flowSequenceStart
  else if character = '\x7b' then reader.openFlow .flowMappingStart
  else if character = ']' then reader.closeFlow .flowSequenceEnd
  else if character = '\x7d' then reader.closeFlow .flowMappingEnd
  else if character = ',' then reader.readFlowEntry
  else if character = '-' ∧ marksBlock then reader.readBlockEntry
  else if character = '?' ∧ (reader.inFlow ∨ marksBlock) then reader.readKeyMark
  else if character = ':' ∧ (reader.inFlow ∨ marksBlock) then reader.readValueMark
  else if character = '*' then reader.readReference
  else if character = '&' then reader.readAnchor
  else if character = '!' then reader.readTag
  else if character = '|' ∧ !reader.inFlow then reader.readBlock .literal
  else if character = '>' ∧ !reader.inFlow then reader.readBlock .folded
  else if character = '"' ∨ character = quote then reader.readQuoted character
  else if YamlScalarReader.startsPlain reader.inFlow (character :: rest) then reader.readPlain
  else none

/-- Read all tokens up to the end of the text.  The fuel exceeds its length. -/
def readTokens : Nat → YamlTokenReader → Option YamlTokenReader
  | 0, _ => none
  | fuel + 1, reader => do
      let reader ← (skipSpace (fuel + 1) reader).refresh?
      let reader := reader.closeDeeper reader.place.column
      match reader.place.text with
      | [] => reader.closeAll.dropCandidate?
      | character :: rest => do readTokens fuel (← reader.readToken character rest)

def announcement (keys : List YamlKeyMark) (position : Nat) : List YamlToken :=
  match keys.find? fun key => key.position == position with
  | some key => if key.startsMapping then [.blockMappingStart, .key] else [.key]
  | none => []

/-- The tokens from a position on, with the keys among them announced. -/
def announceKeys (keys : List YamlKeyMark) (position : Nat) : List YamlToken → List YamlToken
  | [] => []
  | token :: tokens =>
      announcement keys position ++ token :: announceKeys keys (position + 1) tokens

end YamlTokenReader

/-- The tokens of a text whose line ends are unified.  A byte order mark at its
start is passed over, but takes up a column. -/
def YamlToken.ofText? (text : List Char) : Option (List YamlToken) := do
  let place := YamlPlace.start text
  let place := if place.isAt '\ufeff' then place.next else place
  let reader ← YamlTokenReader.readTokens (text.length + 1) (.start place)
  return YamlTokenReader.announceKeys reader.keys 0 reader.tokens.reverse

end RowFunctions

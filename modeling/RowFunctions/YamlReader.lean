import RowFunctions.YamlDocuments
import RowFunctions.YamlTokenReader

/-!
# Reading YAML

A text holds at most one document.  Its tokens are read first, and the tree of
nodes is then read from the tokens.  Values may be missing wherever the tokens
go on as if they were there.
-/

namespace RowFunctions

namespace YamlReader

/-- Whether a token goes on after a key or a value of a block mapping. -/
def isMappingStop : YamlToken → Bool
  | .key => true
  | .value => true
  | .blockEnd => true
  | _ => false

/-- Whether a token goes on after an entry of a block sequence. -/
def isSequenceStop (token : YamlToken) : Bool :=
  token == .blockEntry || isMappingStop token

/-- Whether a token goes on after a value of a flow collection that a token ends. -/
def isFlowStop (closing : YamlToken) (token : YamlToken) : Bool :=
  token == .flowEntry || token == closing

def startsWith (property : YamlToken → Bool) (tokens : List YamlToken) : Bool :=
  (tokens.head?.map property).getD false

/-- Read the anchor and the tag of a node, in either order. -/
def readProperties : List YamlToken → Option Nat × Option String × List YamlToken
  | .anchor number :: .tag name :: rest => (some number, some name, rest)
  | .tag name :: .anchor number :: rest => (some number, some name, rest)
  | .anchor number :: rest => (some number, none, rest)
  | .tag name :: rest => (none, some name, rest)
  | rest => (none, none, rest)

/-- The tag of a scalar.  The empty tag only says that the scalar is text. -/
def scalarTag? (tag : Option String) : Option String :=
  if tag = some "!" then none else tag

/-- Pass over the comma before an element that is not the first one. -/
def skipComma? (isFirst : Bool) (tokens : List YamlToken) : Option (List YamlToken) :=
  if isFirst then
    some tokens
  else
    match tokens with
    | .flowEntry :: rest => some rest
    | _ => none

mutual

/-- Read a node.  The value of a mapping may be a block sequence that is not
indented.  The fuel exceeds twice the number of tokens. -/
def readNode : Nat → Bool → List YamlToken → Option (Yaml × List YamlToken)
  | 0, _, _ => none
  | _, _, .reference number :: rest => some (.reference number, rest)
  | fuel + 1, inMapping, tokens =>
      let (anchor, tag, content) := readProperties tokens
      match content with
      | .scalar style text :: rest =>
          some ((Yaml.scalar style (scalarTag? tag) text).withAnchor anchor, rest)
      | .blockSequenceStart :: rest => do
          let (elements, rest) ← readBlockElements fuel true rest
          return ((Yaml.sequence elements).withAnchor anchor, rest)
      | .blockMappingStart :: rest => do
          let (entries, rest) ← readBlockEntries fuel rest
          return ((Yaml.mapping entries).withAnchor anchor, rest)
      | .flowSequenceStart :: rest => do
          let (elements, rest) ← readFlowElements fuel true rest
          return ((Yaml.sequence elements).withAnchor anchor, rest)
      | .flowMappingStart :: rest => do
          let (entries, rest) ← readFlowEntries fuel true rest
          return ((Yaml.mapping entries).withAnchor anchor, rest)
      | _ =>
          if inMapping ∧ content.head? = some .blockEntry then do
            let (elements, rest) ← readBlockElements fuel false content
            return ((Yaml.sequence elements).withAnchor anchor, rest)
          else if anchor.isSome ∨ tag.isSome then
            some ((Yaml.scalar .plain tag "").withAnchor anchor, content)
          else
            none

/-- Read a node, which is missing if the tokens go on with a certain property. -/
def readOptional : Nat → Bool → (YamlToken → Bool) → List YamlToken →
    Option (Yaml × List YamlToken)
  | 0, _, _, _ => none
  | fuel + 1, inMapping, isStop, tokens =>
      if startsWith isStop tokens then some (.missing, tokens)
      else readNode fuel inMapping tokens

/-- Read the value of an entry, which is missing without a colon. -/
def readValue : Nat → Bool → (YamlToken → Bool) → List YamlToken →
    Option (Yaml × List YamlToken)
  | 0, _, _, _ => none
  | fuel + 1, inMapping, isStop, tokens =>
      match tokens with
      | .value :: rest => readOptional fuel inMapping isStop rest
      | _ => some (.missing, tokens)

/-- Read the entries of a block sequence.  An indented one ends with a token of
its own. -/
def readBlockElements : Nat → Bool → List YamlToken → Option (List Yaml × List YamlToken)
  | 0, _, _ => none
  | fuel + 1, indented, tokens =>
      match tokens with
      | .blockEntry :: rest => do
          let (element, rest) ← readOptional fuel false isSequenceStop rest
          let (elements, rest) ← readBlockElements fuel indented rest
          return (element :: elements, rest)
      | .blockEnd :: rest => if indented then some ([], rest) else some ([], tokens)
      | _ => if indented then none else some ([], tokens)

def readBlockEntries : Nat → List YamlToken → Option (List (Yaml × Yaml) × List YamlToken)
  | 0, _ => none
  | fuel + 1, tokens =>
      match tokens with
      | .key :: rest => do
          let (key, rest) ← readOptional fuel true isMappingStop rest
          let (value, rest) ← readValue fuel true isMappingStop rest
          let (entries, rest) ← readBlockEntries fuel rest
          return ((key, value) :: entries, rest)
      | .blockEnd :: rest => some ([], rest)
      | _ => none

/-- Read the elements of a flow sequence.  An element with a key is a mapping
with one entry. -/
def readFlowElements : Nat → Bool → List YamlToken → Option (List Yaml × List YamlToken)
  | 0, _, _ => none
  | fuel + 1, isFirst, tokens =>
      match tokens with
      | .flowSequenceEnd :: rest => some ([], rest)
      | _ => do
          match ← skipComma? isFirst tokens with
          | .flowSequenceEnd :: rest => return ([], rest)
          | .key :: rest => do
              let (pair, rest) ← readFlowPair fuel rest
              let (elements, rest) ← readFlowElements fuel false rest
              return (.mapping [pair] :: elements, rest)
          | tokens => do
              let (element, rest) ← readNode fuel false tokens
              let (elements, rest) ← readFlowElements fuel false rest
              return (element :: elements, rest)

/-- Read the key and the value of a mapping inside a flow sequence.  A missing
key takes the next token with it. -/
def readFlowPair : Nat → List YamlToken → Option ((Yaml × Yaml) × List YamlToken)
  | 0, _ => none
  | fuel + 1, tokens => do
      let isStop := isFlowStop .flowSequenceEnd
      let (key, rest) ←
        if startsWith (fun token => token == .value || isStop token) tokens then
          some (Yaml.missing, tokens.tail)
        else
          readNode fuel false tokens
      let (value, rest) ← readValue fuel false isStop rest
      return ((key, value), rest)

def readFlowEntries : Nat → Bool → List YamlToken →
    Option (List (Yaml × Yaml) × List YamlToken)
  | 0, _, _ => none
  | fuel + 1, isFirst, tokens =>
      let isStop := isFlowStop .flowMappingEnd
      match tokens with
      | .flowMappingEnd :: rest => some ([], rest)
      | _ => do
          match ← skipComma? isFirst tokens with
          | .flowMappingEnd :: rest => return ([], rest)
          | .key :: rest => do
              let (key, rest) ←
                readOptional fuel false (fun token => token == .value || isStop token) rest
              let (value, rest) ← readValue fuel false isStop rest
              let (entries, rest) ← readFlowEntries fuel false rest
              return ((key, value) :: entries, rest)
          | tokens => do
              let (key, rest) ← readNode fuel false tokens
              let (entries, rest) ← readFlowEntries fuel false rest
              return ((key, .missing) :: entries, rest)

end

/-- Whether a token cannot belong to the content of a document. -/
def isOutside (token : YamlToken) : Bool :=
  token == .directive || token == .documentStart || token == .documentEnd

/-- Read the root of a document.  Directives need a mark behind them, and a mark
may be followed by nothing. -/
def readRoot (tokens : List YamlToken) : Option (Option Yaml × List YamlToken) :=
  let fuel := 4 * tokens.length + 4
  match tokens.dropWhile (· == .directive) with
  | .documentStart :: content =>
      if content = [] ∨ startsWith isOutside content then
        some (some .missing, content)
      else
        (readNode fuel false content).map fun (root, rest) => (some root, rest)
  | [] => if tokens = [] then some (none, []) else none
  | _ =>
      if startsWith (· == .directive) tokens then none
      else (readNode fuel false tokens).map fun (root, rest) => (some root, rest)

end YamlReader

def YamlDocument.ofTokens? (tokens : List YamlToken) : Option YamlDocument := do
  let (root, rest) ← YamlReader.readRoot tokens
  if rest.all (· == .documentEnd) then some ⟨root⟩ else none

/-- Read a text that holds at most one YAML document. -/
def YamlDocument.parse? (text : String) : Option YamlDocument :=
  if text.toList.all YamlText.isAllowed then
    (YamlToken.ofText? (YamlText.unifyBreaks text.toList)).bind YamlDocument.ofTokens?
  else
    none

end RowFunctions

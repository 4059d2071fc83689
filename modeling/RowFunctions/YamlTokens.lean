/-!
# YAML tokens

The tokens that a YAML text consists of.  Indentation is made explicit: a block
collection starts with a token of its own and ends where the indentation falls
back, and a key is announced before its first token even where only the colon
behind it tells that it is one.
-/

namespace RowFunctions

/-- How a scalar is written. -/
inductive YamlStyle where
  | plain
  | quoted
  | literal
  | folded
deriving DecidableEq

/-- A token of a YAML text.  Anchors are numbered. -/
inductive YamlToken where
  | directive
  | documentStart
  | documentEnd
  | blockSequenceStart
  | blockMappingStart
  | blockEnd
  | flowSequenceStart
  | flowSequenceEnd
  | flowMappingStart
  | flowMappingEnd
  | blockEntry
  | flowEntry
  | key
  | value
  | anchor (number : Nat)
  | reference (number : Nat)
  | tag (name : String)
  | scalar (style : YamlStyle) (text : String)
deriving DecidableEq

end RowFunctions

import RowFunctions.YamlTokens

/-!
# YAML documents

A document is a tree of scalars, sequences and mappings.  What a plain scalar
means is left to the reader of the value; a missing value is the plain scalar
without text.  A node may be anchored under a number, and a reference with this
number stands for the node, so a document is a tree together with the nodes that
are anchored in it.
-/

namespace RowFunctions

/-- A node of a YAML document. -/
inductive Yaml where
  | scalar (style : YamlStyle) (tag : Option String) (text : String)
  | sequence (elements : List Yaml)
  | mapping (entries : List (Yaml × Yaml))
  | anchored (number : Nat) (node : Yaml)
  | reference (number : Nat)

namespace Yaml

/-- A value that is not there. -/
def missing : Yaml := .scalar .plain none ""

def withAnchor (node : Yaml) : Option Nat → Yaml
  | none => node
  | some number => .anchored number node

mutual

/-- The anchored nodes of a tree in the order of their starts. -/
def anchoredNodes : Yaml → List (Nat × Yaml)
  | .scalar _ _ _ => []
  | .sequence elements => anchoredInElements elements
  | .mapping entries => anchoredInEntries entries
  | .anchored number node => (number, node) :: anchoredNodes node
  | .reference _ => []

def anchoredInElements : List Yaml → List (Nat × Yaml)
  | [] => []
  | element :: elements => anchoredNodes element ++ anchoredInElements elements

def anchoredInEntries : List (Yaml × Yaml) → List (Nat × Yaml)
  | [] => []
  | (key, value) :: entries =>
      anchoredNodes key ++ (anchoredNodes value ++ anchoredInEntries entries)

end

end Yaml

/-- A YAML document, which may be empty. -/
structure YamlDocument where
  root : Option Yaml

namespace YamlDocument

/-- The node anchored under a number; of several the last one counts. -/
def anchored? (document : YamlDocument) (number : Nat) : Option Yaml :=
  let nodes := (document.root.map Yaml.anchoredNodes).getD []
  ((nodes.filter fun node => node.1 == number).getLast?).map Prod.snd

/-- The node that a node of the document stands for. -/
def resolve (document : YamlDocument) (node : Yaml) : Yaml :=
  match node with
  | .anchored _ inner => inner
  | .reference number => (document.anchored? number).getD node
  | _ => node

end YamlDocument

end RowFunctions

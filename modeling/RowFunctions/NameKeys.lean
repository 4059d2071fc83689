import RowFunctions.Lowercasing

/-!
# Name keys of functions

Overloads of one function are declared under its name and a suffix that starts
with two underscores.  The key of a name is the part before the first two
underscores in lowercase; names with the same key mean the same function.  A
name that starts with two underscores has no key.
-/

namespace RowFunctions

/-- The canonical name of a function. -/
structure NameKey where
  text : String
deriving DecidableEq

namespace NameKey

/-- The part of a name before its first two underscores. -/
def beforeSuffix : List Char → List Char
  | [] => []
  | '_' :: '_' :: _ => []
  | character :: rest => character :: beforeSuffix rest

/-- Whether a name starts with two underscores. -/
def isOnlySuffix : List Char → Bool
  | '_' :: '_' :: _ => true
  | _ => false

def dropSuffix? (name : String) : Option String :=
  if isOnlySuffix name.toList then
    none
  else
    some (String.ofList (beforeSuffix name.toList))

def of? (name : String) : Option NameKey :=
  (dropSuffix? name).map fun base => ⟨Lowercasing.ofString base⟩

/-- Compare two keys by their code points. -/
def compare (first second : NameKey) : Ordering := compareOfLessAndEq first.text second.text

end NameKey

end RowFunctions

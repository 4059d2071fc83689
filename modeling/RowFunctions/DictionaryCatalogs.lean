import RowFunctions.BlankCharacters
import RowFunctions.PlanDocuments
import RowFunctions.StringDictionaries

/-!
# Dictionary catalogs

A catalog holds the dictionaries that a query can see, in ascending order of
their identifiers.  A dictionary document is a JSON object whose keys are
identifiers in decimal and whose values are lists of strings.  A key that is
repeated keeps its last value; different keys must name different dictionaries.
-/

namespace RowFunctions

/-- Dictionaries in ascending order of their identifiers. -/
structure DictionaryCatalog where
  dictionaries : List StringDictionary
deriving DecidableEq

namespace DictionaryCatalog

def empty : DictionaryCatalog := ⟨[]⟩

/-- Put a dictionary into its place in an ascending list, where it replaces one
with the same identifier. -/
def place (dictionary : StringDictionary) : List StringDictionary → List StringDictionary
  | [] => [dictionary]
  | other :: others =>
      if dictionary.id = other.id then dictionary :: others
      else if dictionary.id < other.id then dictionary :: other :: others
      else other :: place dictionary others

/-- Add a dictionary, replacing one with the same identifier. -/
def insert (catalog : DictionaryCatalog) (dictionary : StringDictionary) : DictionaryCatalog :=
  ⟨place dictionary catalog.dictionaries⟩

def get? (catalog : DictionaryCatalog) (id : DictionaryId) : Option StringDictionary :=
  catalog.dictionaries.find? fun dictionary => dictionary.id == id

/-- The dictionary with an identifier, or the error that it is unknown. -/
def get (catalog : DictionaryCatalog) (id : DictionaryId) :
    Except DictionaryError StringDictionary :=
  match catalog.get? id with
  | some dictionary => .ok dictionary
  | none => .error (.unknownDictionary id)

def ids (catalog : DictionaryCatalog) : List DictionaryId :=
  catalog.dictionaries.map StringDictionary.id

def size (catalog : DictionaryCatalog) : Nat := catalog.dictionaries.length

/-- Put an entry into its place by key, where it replaces one with the same key. -/
def placeEntry (key : String) (strings : List String) :
    List (String × List String) → List (String × List String)
  | [] => [(key, strings)]
  | (other, others) :: entries =>
      if key = other then (key, strings) :: entries
      else if key < other then (key, strings) :: (other, others) :: entries
      else (other, others) :: placeEntry key strings entries

/-- The entries of a dictionary document in the order of their keys, if every
value is a list of strings. -/
def entries? : Json → Option (List (String × List String))
  | .object members => do
      let named ← PlanDocument.namedMembers? members
      let typed ← named.mapM fun entry =>
        (PlanDocument.list? PlanDocument.text? entry.2).map fun strings => (entry.1, strings)
      return typed.foldl (fun entries entry => placeEntry entry.1 entry.2 entries) []
  | _ => none

/-- The identifier that a key of a dictionary document names, with blanks around
it ignored. -/
def keyId? (key : String) : Option DictionaryId := Numeral.toInt32? (trimBlanks key.toList)

/-- Add the entries of a document to a catalog, in order. -/
def addEntries (catalog : DictionaryCatalog) :
    List (String × List String) → Except DictionaryError DictionaryCatalog
  | [] => .ok catalog
  | (key, strings) :: entries =>
      match keyId? key with
      | none => .error (.invalidDocument (.notDictionaryId key))
      | some id =>
          match catalog.get? id with
          | some _ => .error (.invalidDocument (.repeatedDictionary id))
          | none =>
              match StringDictionary.ofStrings id strings with
              | .error error => .error error
              | .ok dictionary => (catalog.insert dictionary).addEntries entries

/-- Read a catalog from the text of a dictionary document. -/
def parse (text : String) : Except DictionaryError DictionaryCatalog :=
  match (Json.parse? text).bind entries? with
  | some entries => empty.addEntries entries
  | none => .error (.json text)

end DictionaryCatalog

end RowFunctions

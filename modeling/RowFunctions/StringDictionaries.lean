import RowFunctions.FileFailures
import RowFunctions.IntegerNumerals
import RowFunctions.StringIdentifiers

/-!
# String dictionaries

A string dictionary is an append-only list of different strings.  The identifier
of a string is its position.  A table beside the list finds the identifier of a
string without a search through the list.
-/

namespace RowFunctions

/-- What is wrong with a dictionary document that is otherwise well formed. -/
inductive DocumentFault where
  | notDictionaryId (key : String)
  | repeatedDictionary (dictionary : DictionaryId)
deriving DecidableEq

/-- Why an operation on dictionaries fails.  A document that cannot be understood
is kept as its text, which decides what its parser says about it. -/
inductive DictionaryError where
  | file (failure : FileFailure)
  | json (text : String)
  | unknownDictionary (dictionary : DictionaryId)
  | unknownString (dictionary : DictionaryId) (string : StringId)
  | invalidString (dictionary : DictionaryId) (string : StringId)
  | noIdsLeft (dictionary : DictionaryId)
  | invalidDocument (fault : DocumentFault)
deriving DecidableEq

def DocumentFault.message : DocumentFault → String
  | notDictionaryId key => "'" ++ key ++ "' is not a dictionary id"
  | repeatedDictionary dictionary =>
      "dictionary id " ++ Numeral.ofInt32 dictionary ++ " is given more than once"

def DictionaryError.message (details : ParserDetails) : DictionaryError → String
  | file failure => "IO error: " ++ failure.message
  | json text => "JSON error: " ++ details.dictionaries text
  | unknownDictionary dictionary =>
      "Unknown string dictionary: " ++ Numeral.ofInt32 dictionary
  | unknownString dictionary string =>
      "String id " ++ Numeral.ofInt32 string ++ " not found in dictionary " ++
        Numeral.ofInt32 dictionary
  | invalidString dictionary string =>
      "String id " ++ Numeral.ofInt32 string ++ " is not a valid id for dictionary " ++
        Numeral.ofInt32 dictionary
  | noIdsLeft dictionary =>
      "Dictionary " ++ Numeral.ofInt32 dictionary ++ " has no ids left"
  | invalidDocument fault => "Invalid dictionary document: " ++ fault.message

/-- The text of the failure behind a dictionary error, if there is one. -/
def DictionaryError.cause? (details : ParserDetails) : DictionaryError → Option String
  | file failure => some failure.message
  | json text => some (details.dictionaries text)
  | _ => none

/-- Strings in the order in which they were added, and the identifiers under
which they were added, the newest first. -/
structure StringTable where
  strings : List String
  ids : List (String × StringId)
deriving DecidableEq

namespace StringTable

def empty : StringTable := ⟨[], []⟩

def size (table : StringTable) : Nat := table.strings.length

/-- The identifier of a string, if the table holds it. -/
def getId? (table : StringTable) (value : String) : Option StringId := table.ids.lookup value

def getAt? (table : StringTable) (position : Nat) : Option String := table.strings[position]?

def push (table : StringTable) (value : String) (id : StringId) : StringTable :=
  ⟨table.strings ++ [value], (value, id) :: table.ids⟩

end StringTable

/-- An append-only list of strings, named by an identifier. -/
structure StringDictionary where
  id : DictionaryId
  table : StringTable
deriving DecidableEq

namespace StringDictionary

def empty (id : DictionaryId) : StringDictionary := ⟨id, .empty⟩

def strings (dictionary : StringDictionary) : List String := dictionary.table.strings

def size (dictionary : StringDictionary) : Nat := dictionary.table.size

/-- The identifier of a string, if the dictionary holds it. -/
def getId? (dictionary : StringDictionary) (value : String) : Option StringId :=
  dictionary.table.getId? value

def getString? (dictionary : StringDictionary) (id : StringId) : Option String :=
  if 0 ≤ id then dictionary.table.getAt? id.toInt.toNat else none

/-- The identifier of a string, which is added at the end if it is new. -/
def getOrAdd (dictionary : StringDictionary) (value : String) :
    Except DictionaryError (StringId × StringDictionary) :=
  match dictionary.getId? value with
  | some id => .ok (id, dictionary)
  | none =>
      if dictionary.size ≤ Int32.maxValue.toInt then
        let id := Int32.ofNat dictionary.size
        .ok (id, { dictionary with table := dictionary.table.push value id })
      else
        .error (.noIdsLeft dictionary.id)

def addAll (dictionary : StringDictionary) : List String → Except DictionaryError StringDictionary
  | [] => .ok dictionary
  | value :: values =>
      match dictionary.getOrAdd value with
      | .ok (_, dictionary) => addAll dictionary values
      | .error error => .error error

/-- The dictionary of a list of strings; a repeated string keeps its first place. -/
def ofStrings (id : DictionaryId) (strings : List String) :
    Except DictionaryError StringDictionary :=
  (empty id).addAll strings

end StringDictionary

end RowFunctions

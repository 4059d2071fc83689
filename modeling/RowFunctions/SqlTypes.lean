import RowFunctions.IntegerNumerals
import RowFunctions.StringIdentifiers

/-!
# Types of analyzed expressions

A type has a base kind, for arrays the kind of the elements, a physical encoding
and a nullability.  Text that is stored as identifiers into a string dictionary
carries the identifier of that dictionary as the parameter of its encoding.
-/

namespace RowFunctions

/-- The base kind of a value. -/
inductive SqlKind where
  | boolean
  | smallInt
  | int
  | bigInt
  | float
  | double
  | text
  | timestamp
  | array
deriving DecidableEq

def SqlKind.display : SqlKind → String
  | boolean => "BOOLEAN"
  | smallInt => "SMALLINT"
  | int => "INTEGER"
  | bigInt => "BIGINT"
  | float => "FLOAT"
  | double => "DOUBLE"
  | text => "TEXT"
  | timestamp => "TIMESTAMP"
  | array => "ARRAY"

/-- How values are stored: as they are, or as identifiers into a dictionary. -/
inductive Encoding where
  | plain
  | dictionary
deriving DecidableEq

/-- The type of an analyzed expression. -/
structure SqlType where
  kind : SqlKind
  element : Option SqlKind
  encoding : Encoding
  parameter : Int32
  nullable : Bool
deriving DecidableEq

namespace SqlType

/-- A nullable type without encoding. -/
def scalar (kind : SqlKind) : SqlType := ⟨kind, none, .plain, 0, true⟩

def text : SqlType := scalar .text

def dictionaryText (dictionary : DictionaryId) : SqlType :=
  ⟨.text, none, .dictionary, dictionary, true⟩

/-- An array of text stored as identifiers into a dictionary. -/
def dictionaryTextArray (dictionary : DictionaryId) : SqlType :=
  ⟨.array, some .text, .dictionary, dictionary, true⟩

def arrayOf (element : SqlKind) : SqlType := ⟨.array, some element, .plain, 0, true⟩

def notNull (type : SqlType) : SqlType := { type with nullable := false }

def isArray (type : SqlType) : Bool := type.kind == .array

/-- Whether a type is text stored as identifiers into a dictionary. -/
def isDictionaryText (type : SqlType) : Bool :=
  type.kind == .text && type.encoding == .dictionary

/-- Whether a type is an array of text stored as identifiers into a dictionary. -/
def isDictionaryTextArray (type : SqlType) : Bool :=
  type.isArray && type.element == some .text && type.encoding == .dictionary

/-- The dictionary behind a type, if the type is text or an array of text that is
stored as dictionary identifiers. -/
def dictionary? (type : SqlType) : Option DictionaryId :=
  if type.isDictionaryText || type.isDictionaryTextArray then some type.parameter else none

def display (type : SqlType) : String :=
  let base := match type.kind, type.element with
    | .array, some element => element.display ++ "[]"
    | kind, _ => kind.display
  let encoding := match type.encoding with
    | .dictionary => " ENCODING DICT(" ++ Numeral.ofInt32 type.parameter ++ ")"
    | .plain => ""
  base ++ encoding ++ if type.nullable then "" else " NOT NULL"

end SqlType

end RowFunctions

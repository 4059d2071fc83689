/-!
# TOML documents

The values of a TOML document.  The tables form a tree that remembers how each
table came about, because that decides whether it may be extended: a table made
only as the parent of another may still be given a header, a table made by a
dotted key may be extended by further dotted keys, and a table written in one
value is closed.

Numbers with a fraction, dates and times are recognized but carry no value.
-/

namespace RowFunctions

/-- How a table came about. -/
inductive TableOrigin where
  | implied
  | header
  | dotted
  | closed
deriving DecidableEq

/-- A value in a TOML document.  The tables of a repeated header are kept apart
from other arrays. -/
inductive Toml where
  | string (value : String)
  | integer (value : Int)
  | boolean (value : Bool)
  | fractional
  | moment
  | array (elements : List Toml)
  | table (origin : TableOrigin) (entries : List (String × Toml))
  | tables (elements : List (List (String × Toml)))

end RowFunctions

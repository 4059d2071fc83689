/-!
# Identifiers of dictionaries and strings

A string dictionary and the strings in it are named by signed words of 32 bits.
Strings stored in a dictionary have identifiers from `0` upwards.  Strings that
a query invents are transient: their identifiers count down from `-2`, and the
smallest word is never handed out because it marks an absent string.
-/

namespace RowFunctions

/-- The key that names one string dictionary within a query. -/
abbrev DictionaryId := Int32

/-- The name of one string within its dictionary or its transient table. -/
abbrev StringId := Int32

namespace StringId

/-- The identifier that stands for no string at all. -/
def invalid : StringId := Int32.minValue

/-- The identifier of the first transient string; later ones count down from here. -/
def firstTransient : StringId := -2

/-- Whether an identifier lies in the range reserved for transient strings. -/
def isTransient (id : StringId) : Bool :=
  decide (id ≤ firstTransient) && id != invalid

/-- The identifier of the transient string at a position of its table, as long
as the words above `invalid` last. -/
def ofTransientIndex? (index : Nat) : Option StringId :=
  if index ≤ Int32.maxValue.toInt then
    let offset := Int32.ofNat index
    if invalid.toInt < firstTransient.toInt - offset.toInt then
      some (firstTransient - offset)
    else
      none
  else
    none

/-- The table position of a transient identifier. -/
def transientIndex? (id : StringId) : Option Nat :=
  if isTransient id then some (firstTransient - id).toInt.toNat else none

end StringId

end RowFunctions

import RowFunctions.Proofs.AssociationLists
import RowFunctions.Proofs.TransientIdentifiers
import RowFunctions.StringDictionaries

/-!
# Exact string tables

A table of strings answers two questions: which identifier a string has, and
which string stands at a position.  The table is exact for a reading of
identifiers as positions when the two answers are inverse to each other.  The
empty table is exact, and pushing a string that the table does not hold keeps it
exact, provided that its identifier is the only one read as the next position.
A dictionary is exact for the reading of identifiers as stored positions,
however it was filled.
-/

namespace RowFunctions

namespace StringTable

/-- A table finds an identifier for a string exactly if the string stands at the
position as which the identifier is read. -/
def IsExact (position? : StringId → Option Nat) (table : StringTable) : Prop :=
  ∀ value id, table.getId? value = some id ↔ (position? id).bind table.getAt? = some value

theorem isExact_empty (position? : StringId → Option Nat) : IsExact position? empty := by
  intro value id
  cases position? id <;> simp [empty, getId?, getAt?]

@[simp]
theorem strings_push (table : StringTable) (value : String) (id : StringId) :
    (table.push value id).strings = table.strings ++ [value] :=
  rfl

theorem getId?_push (table : StringTable) (value : String) (id : StringId) (other : String) :
    (table.push value id).getId? other =
      if other = value then some id else table.getId? other :=
  AssociationList.lookup_cons other value id table.ids

theorem getAt?_push (table : StringTable) (value : String) (id : StringId) (position : Nat) :
    (table.push value id).getAt? position =
      if position = table.size then some value else table.getAt? position := by
  unfold getAt? push size
  rcases Nat.lt_trichotomy position table.strings.length with below | here | above
  · rw [List.getElem?_append_left below, if_neg (by omega)]
  · subst here
    simp
  · rw [if_neg (by omega), List.getElem?_eq_none (by simp; omega),
      List.getElem?_eq_none (by omega)]

theorem getAt?_size (table : StringTable) : table.getAt? table.size = none := by
  simp [getAt?, size]

namespace IsExact

variable {position? : StringId → Option Nat} {table : StringTable}

/-- An exact table stays exact when a new string is pushed under the identifier
of the next position. -/
theorem push (inverse : IsExact position? table) {value : String} {id : StringId}
    (fresh : table.getId? value = none)
    (next : ∀ other, position? other = some table.size ↔ other = id) :
    IsExact position? (table.push value id) := by
  intro other otherId
  rw [getId?_push]
  by_cases isNext : otherId = id
  · -- The identifier of the next position stands for the new string alone.
    subst isNext
    have stands : position? otherId = some table.size := (next otherId).mpr rfl
    have unused : table.getId? other ≠ some otherId := by
      rw [ne_eq, inverse other otherId, stands, Option.bind_some, getAt?_size]
      simp
    rw [stands, Option.bind_some, getAt?_push, if_pos rfl]
    by_cases same : other = value
    · simp [same]
    · simp [same, unused, Ne.symm same]
  · -- Every other identifier is read as it was, and not as the new string.
    have unchanged : (position? otherId).bind (table.push value id).getAt? =
        (position? otherId).bind table.getAt? := by
      cases stands : position? otherId with
      | none => rfl
      | some position =>
          have elsewhere : position ≠ table.size := by
            rintro rfl
            exact isNext ((next otherId).mp stands)
          rw [Option.bind_some, Option.bind_some, getAt?_push, if_neg elsewhere]
    rw [unchanged, ← inverse other otherId]
    by_cases same : other = value
    · subst same
      simp [fresh, Ne.symm isNext]
    · rw [if_neg same]

end IsExact

end StringTable

namespace StringDictionary

/-- A dictionary finds an identifier for a string exactly if it finds the string
under that identifier. -/
def IsExact (dictionary : StringDictionary) : Prop :=
  dictionary.table.IsExact StringId.storedIndex?

theorem getString?_eq_bind (dictionary : StringDictionary) (id : StringId) :
    dictionary.getString? id = (StringId.storedIndex? id).bind dictionary.table.getAt? := by
  unfold getString? StringId.storedIndex?
  by_cases nonneg : 0 ≤ id <;> simp [nonneg]

theorem isExact_empty (id : DictionaryId) : (empty id).IsExact :=
  StringTable.isExact_empty _

theorem IsExact.getOrAdd {dictionary after : StringDictionary} {value : String} {id : StringId}
    (inverse : dictionary.IsExact) (added : dictionary.getOrAdd value = .ok (id, after)) :
    after.IsExact := by
  unfold StringDictionary.getOrAdd at added
  cases found : dictionary.getId? value with
  | some known =>
      rw [found] at added
      injection added with same
      injection same with _ same
      exact same ▸ inverse
  | none =>
      rw [found] at added
      by_cases room : (dictionary.size : Int) ≤ Int32.maxValue.toInt
      · simp only [room, if_true, Except.ok.injEq, Prod.mk.injEq] at added
        obtain ⟨-, rfl⟩ := added
        have largest : Int32.maxValue.toInt = 2 ^ 31 - 1 := by decide
        have small : dictionary.size < 2 ^ 31 := by omega
        exact inverse.push found (StringId.storedIndex?_eq_some_iff_eq_ofNat small)
      · simp only [room, if_false, reduceCtorEq] at added

theorem IsExact.addAll {dictionary after : StringDictionary} {values : List String}
    (inverse : dictionary.IsExact) (added : dictionary.addAll values = .ok after) :
    after.IsExact := by
  induction values generalizing dictionary with
  | nil =>
      injection added with same
      exact same ▸ inverse
  | cons value values ih =>
      unfold StringDictionary.addAll at added
      cases step : dictionary.getOrAdd value with
      | error error => simp [step] at added
      | ok result =>
          rw [step] at added
          exact ih (inverse.getOrAdd step) added

/-- However many duplicates a list has, the dictionary made of it is exact. -/
theorem isExact_of_ofStrings {id : DictionaryId} {strings : List String}
    {dictionary : StringDictionary} (built : ofStrings id strings = .ok dictionary) :
    dictionary.IsExact :=
  (isExact_empty id).addAll built

end StringDictionary

end RowFunctions

import RowFunctions.Proofs.StoredIdentifiers
import RowFunctions.Proofs.TransientOrder
import RowFunctions.ToolCommands

/-!
# Identifiers that outlive a query

A query that only interns a list of values answers by the law of first use, or
fails when the list has more new values than there are transient identifiers.  A
fresh query knows none of the transient identifiers: it gives back the values
whose identifiers are stored and fails at the first identifier that is not.
-/

namespace RowFunctions

namespace StringDictionary

theorem IsExact.nonneg_of_getId? {dictionary : StringDictionary} (inverse : dictionary.IsExact)
    {value : String} {id : StringId} (known : dictionary.getId? value = some id) : 0 ≤ id := by
  have reads := (inverse value id).mp known
  by_contra negative
  simp [StringId.storedIndex?, negative] at reads

/-- A new value of a history with room is counted off before the identifiers end. -/
theorem HasRoom.newBefore_lt {dictionary : StringDictionary} {history : List String}
    (room : dictionary.HasRoom history) {value : String} (used : value ∈ history)
    (new : dictionary.getId? value = none) : dictionary.newBefore history value + 2 < 2 ^ 31 := by
  obtain ⟨before, after, rfl, unused⟩ := List.eq_append_cons_of_mem used
  have counted := dictionary.card_newValues_append_new unused new
  have contained := Finset.card_le_card
    (dictionary.newValues_subset_append (before ++ [value]) after)
  rw [List.append_assoc, List.singleton_append] at contained
  unfold HasRoom at room
  rw [newBefore, takeWhile_ne_append unused]
  omega

theorem firstUseId_of_stored {dictionary : StringDictionary} {value : String} {id : StringId}
    (known : dictionary.getId? value = some id) (history : List String) :
    dictionary.firstUseId history value = id := by
  rw [firstUseId, known, Option.getD_some]

/-- A new value of a history with room has the transient identifier of its count. -/
theorem HasRoom.transientIndex?_firstUseId {dictionary : StringDictionary}
    {history : List String} (room : dictionary.HasRoom history) {value : String}
    (used : value ∈ history) (new : dictionary.getId? value = none) :
    StringId.transientIndex? (dictionary.firstUseId history value) =
      some (dictionary.newBefore history value) := by
  rw [firstUseId, new, Option.getD_none,
    ← StringId.ofTransientIndex?_eq_some_iff_transientIndex?]
  exact StringId.ofTransientIndex?_of_lt (room.newBefore_lt used new)

/-- By the law of first use the values that a dictionary does not hold are those
with transient identifiers. -/
theorem isTransient_firstUseId_iff {dictionary : StringDictionary}
    (inverse : dictionary.IsExact) {history : List String} (room : dictionary.HasRoom history)
    {value : String} (used : value ∈ history) :
    StringId.isTransient (dictionary.firstUseId history value) = true ↔
      dictionary.getId? value = none := by
  rw [StringId.isTransient_eq_isSome]
  cases known : dictionary.getId? value with
  | some id =>
      have nonneg := inverse.nonneg_of_getId? known
      rw [firstUseId_of_stored known, StringId.transientIndex?_eq_none_of_nonneg nonneg]
      simp
  | none => simp [room.transientIndex?_firstUseId used known]

end StringDictionary

namespace DictionaryProxy

/-! ### Interning in a fresh query -/

/-- A value for which no identifier is left is refused. -/
theorem Records.intern_of_full {proxy : DictionaryProxy} {history : List String}
    (records : proxy.Records history) (room : proxy.dictionary.HasRoom history) {value : String}
    (full : ¬ proxy.dictionary.HasRoom (history ++ [value])) :
    (proxy.intern value).1 = .error (.noIdsLeft proxy.dictionary.id) := by
  unfold StringDictionary.HasRoom at room full
  have fresh : value ∉ history ∧ proxy.dictionary.getId? value = none := by
    -- Any other value would leave the new values as they are.
    by_contra known
    refine full (le_of_eq_of_le (congrArg Finset.card ?_) room)
    ext other
    simp only [StringDictionary.mem_newValues, List.mem_append, List.mem_singleton]
    constructor
    · rintro ⟨used | rfl, new⟩
      · exact ⟨used, new⟩
      · exact ⟨by_contra fun unused => known ⟨unused, new⟩, new⟩
    · exact fun new => ⟨.inl new.1, new.2⟩
  have unknown : proxy.getId? value = none := by
    rw [getId?_eq_none_iff]
    refine ⟨fresh.2, ?_⟩
    by_contra transient
    obtain ⟨id, found⟩ := Option.ne_none_iff_exists'.mp transient
    exact fresh.1 (records.firstUseId_of_transient fresh.2 found).1
  have exhausted : StringId.ofTransientIndex? proxy.transientCount = none := by
    rw [proxy.dictionary.card_newValues_append_new fresh.1 fresh.2] at full
    rw [Option.eq_none_iff_forall_ne_some]
    intro id next
    have bound := ((StringId.ofTransientIndex?_eq_some_iff _ id).mp next).2
    rw [records.transientCount_eq] at bound
    omega
  simp [DictionaryProxy.intern, unknown, exhausted]

/-- Interning several values fails if not all of them can get identifiers. -/
theorem Records.internAll_of_full {proxy : DictionaryProxy} {history : List String}
    (records : proxy.Records history) (room : proxy.dictionary.HasRoom history)
    {values : List String} (full : ¬ proxy.dictionary.HasRoom (history ++ values)) :
    (proxy.internAll values).1 = .error (.noIdsLeft proxy.dictionary.id) := by
  induction values generalizing proxy history with
  | nil =>
      rw [List.append_nil] at full
      exact absurd room full
  | cons value values ih =>
      by_cases more : proxy.dictionary.HasRoom (history ++ [value])
      · obtain ⟨first, recorded⟩ := records.intern more
        rw [List.append_cons] at full
        rw [← proxy.dictionary_intern value] at more full
        rw [internAll_cons_of_ok first, ih recorded more full, dictionary_intern]
        rfl
      · rw [internAll_cons_of_error (records.intern_of_full room more)]

/-- A query that only interns some values answers by the law of first use for
these, unless identifiers run out. -/
theorem internAll_ofDictionary (dictionary : StringDictionary) (values : List String) :
    ((ofDictionary dictionary).internAll values).1 =
      if dictionary.HasRoom values then .ok (values.map (dictionary.firstUseId values))
      else .error (.noIdsLeft dictionary.id) := by
  have records := records_ofDictionary dictionary
  by_cases room : dictionary.HasRoom values
  · have roomAfter : (ofDictionary dictionary).dictionary.HasRoom ([] ++ values) := room
    rw [if_pos room, (records.internAll roomAfter).1]
    rfl
  · have full : ¬ (ofDictionary dictionary).dictionary.HasRoom ([] ++ values) := room
    have empty : (ofDictionary dictionary).dictionary.HasRoom [] := by
      simp [StringDictionary.HasRoom, StringDictionary.newValues]
    rw [if_neg room, records.internAll_of_full empty full]
    rfl

/-! ### Decoding in a fresh query -/

theorem getString_ofDictionary_of_transient (dictionary : StringDictionary) {id : StringId}
    (transient : StringId.isTransient id = true) :
    (ofDictionary dictionary).getString id = .error (.unknownString dictionary.id id) := by
  rw [StringId.isTransient_eq_isSome, Option.isSome_iff_exists] at transient
  obtain ⟨position, stands⟩ := transient
  have negative : ¬ 0 ≤ id := by
    intro nonneg
    rw [StringId.transientIndex?_eq_none_of_nonneg nonneg] at stands
    contradiction
  rw [getString, if_neg negative, stands]
  rfl

/-- A fresh query gives back interned values up to the first one that was not
stored. -/
theorem getStrings_firstUseId {dictionary : StringDictionary} (inverse : dictionary.IsExact)
    {history : List String} (room : dictionary.HasRoom history) {values : List String}
    (used : ∀ value ∈ values, value ∈ history) :
    let ids := values.map (dictionary.firstUseId history)
    (ofDictionary dictionary).getStrings ids =
      match ids.find? StringId.isTransient with
      | none => .ok values
      | some id => .error (.unknownString dictionary.id id) := by
  induction values with
  | nil => rfl
  | cons value values ih =>
      have usedHere : value ∈ history := used value List.mem_cons_self
      have rest := ih fun other member => used other (List.mem_cons_of_mem value member)
      have kind := StringDictionary.isTransient_firstUseId_iff inverse room usedHere
      simp only [List.map_cons, List.find?_cons, getStrings] at rest ⊢
      cases known : dictionary.getId? value with
      | some id =>
          have stored : StringId.isTransient (dictionary.firstUseId history value) = false := by
            rw [Bool.eq_false_iff, ne_eq, kind, known]
            simp
          have decoded : (ofDictionary dictionary).getString
              (dictionary.firstUseId history value) = .ok value := by
            rw [(isConsistent_ofDictionary inverse).getString_eq_ok_iff,
              StringDictionary.firstUseId_of_stored known]
            simp [getId?, ofDictionary, known]
          rw [stored, decoded, rest]
          cases (values.map (dictionary.firstUseId history)).find? StringId.isTransient <;> rfl
      | none =>
          have transient := kind.mpr known
          rw [transient, getString_ofDictionary_of_transient dictionary transient]

end DictionaryProxy

namespace DictionaryCatalog

/-- A dictionary of a document knows the strings that the document lists for it, each
under its place among the different ones. -/
theorem exists_get?_of_listFor? {text : String} {catalog : DictionaryCatalog}
    (accepted : parse text = .ok catalog) {document : Json}
    (parsed : Json.parse? text = some document) {dictionary : DictionaryId} {strings : List String}
    (listed : listFor? document dictionary = some strings) :
    ∃ stored, catalog.get? dictionary = some stored ∧ stored.id = dictionary ∧ stored.IsExact ∧
      ∀ value, stored.getId? value =
        if value ∈ strings then some (Int32.ofNat (strings.eraseDups.idxOf value)) else none := by
  obtain ⟨found, foundParsed, agrees⟩ := get?_of_parse accepted
  rw [parsed, Option.some.injEq] at foundParsed
  subst foundParsed
  have same := agrees dictionary
  rw [listed, Option.map_some, Option.map_eq_some_iff] at same
  obtain ⟨stored, known, same⟩ := same
  obtain ⟨origin, built⟩ := exists_ofStrings_of_parse accepted known
  obtain ⟨sameId, indexed, -⟩ := StringDictionary.strings_ofStrings built
  have inverse := StringDictionary.isExact_of_ofStrings built
  refine ⟨stored, known, sameId, inverse, fun value => ?_⟩
  rw [StringDictionary.getId?_eq_idxOf inverse (StringDictionary.size_le_of_ofStrings built) indexed,
    same]
  simp only [List.mem_eraseDups]

/-- The identifier that a value is given when it is interned among others, over the
strings that a document lists: its place among the different strings, or for a new value
the transient identifier that the new values before it leave. -/
def printedId (strings values : List String) (value : String) : StringId :=
  if value ∈ strings then Int32.ofNat (strings.eraseDups.idxOf value)
  else Int32.ofInt (-2 - ((values.takeWhile (· ≠ value)).filter (· ∉ strings)).toFinset.card)

section Listed

variable {catalog : DictionaryCatalog} {dictionary : DictionaryId} {stored : StringDictionary}
  {strings values : List String}
  (held : ∀ value, stored.getId? value =
    if value ∈ strings then some (Int32.ofNat (strings.eraseDups.idxOf value)) else none)
include held

theorem newValues_of_listed (values : List String) :
    stored.newValues values = (values.filter (· ∉ strings)).toFinset := by
  ext value
  rw [StringDictionary.mem_newValues, held value]
  simp

theorem firstUseId_eq_printedId (values : List String) (value : String) :
    stored.firstUseId values value = printedId strings values value := by
  unfold StringDictionary.firstUseId StringDictionary.newBefore printedId
  rw [held value, newValues_of_listed held]
  split <;> rfl

theorem map_firstUseId_eq_printedId (values : List String) :
    values.map (stored.firstUseId values) = values.map (printedId strings values) :=
  List.map_congr_left fun value _ => firstUseId_eq_printedId held values value

theorem hasRoom_iff_of_listed :
    stored.HasRoom values ↔ (values.filter (· ∉ strings)).toFinset.card ≤ 2 ^ 31 - 2 := by
  rw [StringDictionary.HasRoom, newValues_of_listed held]

/-- The values that a document does not list are those with transient identifiers. -/
theorem isTransient_printedId_iff (inverse : stored.IsExact) (room : stored.HasRoom values)
    {value : String} (used : value ∈ values) :
    StringId.isTransient (printedId strings values value) = true ↔ value ∉ strings := by
  rw [← firstUseId_eq_printedId held,
    StringDictionary.isTransient_firstUseId_iff inverse room used, held value]
  simp

/-- A query that interns values answers with the identifiers that the list of strings
settles. -/
theorem intern_of_listed (known : catalog.get? dictionary = some stored) :
    catalog.intern dictionary values =
      if stored.HasRoom values then .ok (values.map (printedId strings values))
      else .error (.noIdsLeft stored.id) := by
  rw [intern, get, known, ← map_firstUseId_eq_printedId held]
  exact DictionaryProxy.internAll_ofDictionary stored values

/-- Another query decodes these identifiers up to the first transient one. -/
theorem decode_of_listed (known : catalog.get? dictionary = some stored)
    (inverse : stored.IsExact) (room : stored.HasRoom values) :
    let ids := values.map (printedId strings values)
    catalog.decode dictionary ids =
      match ids.find? StringId.isTransient with
      | none => .ok values
      | some id => .error (.unknownString stored.id id) := by
  intro ids
  simp only [ids, ← map_firstUseId_eq_printedId held]
  rw [decode, get, known]
  exact DictionaryProxy.getStrings_firstUseId inverse room fun _ used => used

end Listed

end DictionaryCatalog

end RowFunctions

import RowFunctions.Proofs.ProxyIdentifiers

/-!
# Transient identifiers in the order of first use

The transient table of a proxy depends only on the values that were interned
into the proxy, in order.  A value that the dictionary holds leaves no trace; any
other value stands at the position that counts the different such values used
before it for the first time.  This file fixes that law for a history of values
and proves that interning, one value at a time or several at once, keeps it as
long as identifiers last.
-/

namespace RowFunctions

namespace StringDictionary

/-- The values of a history that a dictionary does not hold. -/
def newValues (dictionary : StringDictionary) (history : List String) : Finset String :=
  (history.filter fun value => (dictionary.getId? value).isNone).toFinset

/-- The number of different values that a dictionary does not hold and that a
history has before the first use of some value. -/
def newBefore (dictionary : StringDictionary) (history : List String) (value : String) : Nat :=
  (dictionary.newValues (history.takeWhile (· ≠ value))).card

/-- The identifier that a value has by the law of first use: that of the
dictionary, or else the one that the values new before it leave. -/
def firstUseId (dictionary : StringDictionary) (history : List String) (value : String) :
    StringId :=
  (dictionary.getId? value).getD (Int32.ofInt (-2 - dictionary.newBefore history value))

/-- A history leaves transient identifiers for all its new values. -/
def HasRoom (dictionary : StringDictionary) (history : List String) : Prop :=
  (dictionary.newValues history).card ≤ 2 ^ 31 - 2

instance (dictionary : StringDictionary) (history : List String) :
    Decidable (dictionary.HasRoom history) :=
  inferInstanceAs (Decidable (_ ≤ _))

theorem mem_newValues (dictionary : StringDictionary) (history : List String) (value : String) :
    value ∈ dictionary.newValues history ↔
      value ∈ history ∧ dictionary.getId? value = none := by
  simp [newValues]

theorem newValues_subset_append (dictionary : StringDictionary) (history more : List String) :
    dictionary.newValues history ⊆ dictionary.newValues (history ++ more) := by
  intro value new
  rw [mem_newValues] at new ⊢
  exact ⟨List.mem_append_left more new.1, new.2⟩

theorem HasRoom.of_append {dictionary : StringDictionary} {history more : List String}
    (room : dictionary.HasRoom (history ++ more)) : dictionary.HasRoom history :=
  (Finset.card_le_card (dictionary.newValues_subset_append history more)).trans room

theorem takeWhile_ne_append {before : List String} {value : String} (unused : value ∉ before)
    (rest : List String) : (before ++ value :: rest).takeWhile (· ≠ value) = before := by
  have passes : ∀ other ∈ before, decide (other ≠ value) = true := by
    intro other member
    rw [decide_eq_true_eq]
    rintro rfl
    exact unused member
  rw [List.takeWhile_append_of_pos passes]
  simp

theorem card_newValues_append_new (dictionary : StringDictionary) {history : List String}
    {value : String} (unused : value ∉ history) (new : dictionary.getId? value = none) :
    (dictionary.newValues (history ++ [value])).card =
      (dictionary.newValues history).card + 1 := by
  have fresh : value ∉ dictionary.newValues history := by
    rw [mem_newValues]
    exact fun used => unused used.1
  have grown : dictionary.newValues (history ++ [value]) =
      insert value (dictionary.newValues history) := by
    ext other
    simp only [mem_newValues, Finset.mem_insert, List.mem_append, List.mem_singleton]
    constructor
    · rintro ⟨used | same, otherNew⟩
      · exact .inr ⟨used, otherNew⟩
      · exact .inl same
    · rintro (rfl | ⟨used, otherNew⟩)
      · exact ⟨.inr rfl, new⟩
      · exact ⟨.inl used, otherNew⟩
  rw [grown, Finset.card_insert_of_notMem fresh]

theorem newBefore_append_of_mem (dictionary : StringDictionary) {history : List String}
    {value : String} (used : value ∈ history) (more : List String) :
    dictionary.newBefore (history ++ more) value = dictionary.newBefore history value := by
  obtain ⟨before, after, rfl, unused⟩ := List.eq_append_cons_of_mem used
  unfold newBefore
  rw [List.append_assoc, List.cons_append, takeWhile_ne_append unused,
    takeWhile_ne_append unused]

theorem newBefore_append_self (dictionary : StringDictionary) {history : List String}
    {value : String} (unused : value ∉ history) :
    dictionary.newBefore (history ++ [value]) value = (dictionary.newValues history).card := by
  rw [newBefore, takeWhile_ne_append unused]

theorem firstUseId_append_of_mem (dictionary : StringDictionary) {history : List String}
    {value : String} (used : value ∈ history) (more : List String) :
    dictionary.firstUseId (history ++ more) value = dictionary.firstUseId history value := by
  rw [firstUseId, firstUseId, newBefore_append_of_mem dictionary used]

end StringDictionary

/-- The values that a call on a proxy interns, in order. -/
def ProxyCall.interned : ProxyCall → List String
  | .intern value => [value]
  | .internAll values => values
  | _ => []

namespace DictionaryProxy

open StringDictionary

/-- The transient table of a proxy is the one that a history of values leaves. -/
structure Records (proxy : DictionaryProxy) (history : List String) : Prop where
  transient : proxy.transients.IsExact StringId.transientIndex?
  members : ∀ value, value ∈ proxy.transients.strings ↔
    value ∈ proxy.dictionary.newValues history
  positions : ∀ position value, proxy.transients.getAt? position = some value →
    position = proxy.dictionary.newBefore history value

theorem records_ofDictionary (dictionary : StringDictionary) :
    (ofDictionary dictionary).Records [] where
  transient := StringTable.isExact_empty _
  members := by
    intro value
    simp [ofDictionary, StringTable.empty, newValues]
  positions := by
    intro position value stands
    simp [ofDictionary, StringTable.empty, StringTable.getAt?] at stands

theorem Records.mem_of_getAt? {proxy : DictionaryProxy} {history : List String}
    (records : proxy.Records history) {position : Nat} {value : String}
    (stands : proxy.transients.getAt? position = some value) : value ∈ history := by
  have member := (records.members value).mp (List.mem_of_getElem? stands)
  exact ((mem_newValues _ _ _).mp member).1

/-- The table holds as many strings as the history has new values. -/
theorem Records.transientCount_eq {proxy : DictionaryProxy} {history : List String}
    (records : proxy.Records history) :
    proxy.transientCount = (proxy.dictionary.newValues history).card := by
  have nodup : proxy.transients.strings.Nodup := by
    rw [List.nodup_iff_getElem?_ne_getElem?]
    intro first second ordered bounded same
    have stands := List.getElem?_eq_getElem bounded
    have one := records.positions first _ (same.trans stands)
    have two := records.positions second _ stands
    omega
  have same : proxy.transients.strings.toFinset = proxy.dictionary.newValues history := by
    ext value
    rw [List.mem_toFinset, records.members]
  rw [← same, List.toFinset_card_of_nodup nodup]
  rfl

/-- Using a value that is not new, or not new any more, leaves the table right. -/
theorem Records.append_known {proxy : DictionaryProxy} {history : List String}
    (records : proxy.Records history) {value : String}
    (known : value ∈ history ∨ proxy.dictionary.getId? value ≠ none) :
    proxy.Records (history ++ [value]) where
  transient := records.transient
  members := by
    intro other
    rw [records.members, mem_newValues, mem_newValues, List.mem_append, List.mem_singleton]
    constructor
    · exact fun new => ⟨.inl new.1, new.2⟩
    · rintro ⟨used | rfl, new⟩
      · exact ⟨used, new⟩
      · exact ⟨known.resolve_right fun stored => stored new, new⟩
  positions := by
    intro position other stands
    rw [newBefore_append_of_mem _ (records.mem_of_getAt? stands)]
    exact records.positions position other stands

theorem Records.addTransient {proxy : DictionaryProxy} {history : List String}
    (records : proxy.Records history) {value : String} {id : StringId}
    (unknown : proxy.getId? value = none)
    (next : StringId.transientIndex? id = some proxy.transientCount)
    (unused : value ∉ history) :
    (proxy.addTransient value id).Records (history ++ [value]) where
  transient := by
    have fresh := ((proxy.getId?_eq_none_iff value).mp unknown).2
    exact records.transient.push fresh (StringId.transientIndex?_eq_some_iff_eq next)
  members := by
    intro other
    have new := ((proxy.getId?_eq_none_iff value).mp unknown).1
    rw [DictionaryProxy.addTransient, StringTable.strings_push, List.mem_append,
      List.mem_singleton, records.members, mem_newValues, mem_newValues, List.mem_append,
      List.mem_singleton]
    constructor
    · rintro (⟨used, otherNew⟩ | rfl)
      · exact ⟨.inl used, otherNew⟩
      · exact ⟨.inr rfl, new⟩
    · rintro ⟨used | same, otherNew⟩
      · exact .inl ⟨used, otherNew⟩
      · exact .inr same
  positions := by
    intro position other stands
    rw [DictionaryProxy.addTransient, StringTable.getAt?_push] at stands
    by_cases last : position = proxy.transients.size
    · rw [if_pos last, Option.some.injEq] at stands
      subst stands
      rw [newBefore_append_self _ unused]
      exact last.trans records.transientCount_eq
    · rw [if_neg last] at stands
      rw [newBefore_append_of_mem _ (records.mem_of_getAt? stands)]
      exact records.positions position other stands

theorem Records.firstUseId_of_transient {proxy : DictionaryProxy} {history : List String}
    (records : proxy.Records history) {value : String} {id : StringId}
    (new : proxy.dictionary.getId? value = none)
    (transient : proxy.transients.getId? value = some id) :
    value ∈ history ∧ proxy.dictionary.firstUseId history value = id := by
  obtain ⟨position, reads, stands⟩ :=
    Option.bind_eq_some_iff.mp ((records.transient value id).mp transient)
  refine ⟨records.mem_of_getAt? stands, ?_⟩
  have counted := records.positions position value stands
  have reached := (StringId.transientIndex?_eq_some_iff id position).mp reads
  rw [firstUseId, new, Option.getD_none, ← counted, ← reached.1, Int32.ofInt_toInt]

/-- While identifiers last, a value without identifier was not used. -/
theorem Records.unused_of_unknown {proxy : DictionaryProxy} {history : List String}
    (records : proxy.Records history) (room : proxy.dictionary.HasRoom history)
    {value : String} (unknown : proxy.getId? value = none) : value ∉ history := by
  intro used
  have neither := (proxy.getId?_eq_none_iff value).mp unknown
  have member := (records.members value).mpr ((mem_newValues _ _ _).mpr ⟨used, neither.1⟩)
  obtain ⟨position, stands⟩ := List.mem_iff_getElem?.mp member
  have below : position < proxy.transientCount := (List.getElem?_eq_some_iff.mp stands).1
  have bounded : position + 2 < 2 ^ 31 := by
    rw [records.transientCount_eq] at below
    unfold HasRoom at room
    omega
  have identified := StringId.ofTransientIndex?_of_lt bounded
  rw [StringId.ofTransientIndex?_eq_some_iff_transientIndex?] at identified
  have found : proxy.transients.getId? value = some _ :=
    (records.transient value _).mpr (Option.bind_eq_some_iff.mpr ⟨position, identified, stands⟩)
  rw [neither.2] at found
  contradiction

/-- Interning a value answers by the law of first use and keeps the table right. -/
theorem Records.intern {proxy : DictionaryProxy} {history : List String}
    (records : proxy.Records history) {value : String}
    (room : proxy.dictionary.HasRoom (history ++ [value])) :
    (proxy.intern value).1 = .ok (proxy.dictionary.firstUseId (history ++ [value]) value) ∧
      (proxy.intern value).2.Records (history ++ [value]) := by
  cases stored : proxy.dictionary.getId? value with
  | some id =>
      have known : proxy.getId? value = some id := by simp [getId?, stored]
      have lawful : proxy.dictionary.firstUseId (history ++ [value]) value = id := by
        simp [firstUseId, stored]
      rw [intern_of_known known, lawful]
      exact ⟨rfl, records.append_known (.inr (by simp [stored]))⟩
  | none =>
      cases transient : proxy.transients.getId? value with
      | some id =>
          have known : proxy.getId? value = some id := by simp [getId?, stored, transient]
          obtain ⟨used, lawful⟩ := records.firstUseId_of_transient stored transient
          rw [intern_of_known known, firstUseId_append_of_mem _ used, lawful]
          exact ⟨rfl, records.append_known (.inl used)⟩
      | none =>
          -- A first use: the number of new values so far is the position taken.
          have unknown := (proxy.getId?_eq_none_iff value).mpr ⟨stored, transient⟩
          have unused := records.unused_of_unknown room.of_append unknown
          have bounded : proxy.transientCount + 2 < 2 ^ 31 := by
            unfold HasRoom at room
            rw [card_newValues_append_new _ unused stored, ← records.transientCount_eq] at room
            omega
          have next := StringId.ofTransientIndex?_of_lt bounded
          have lawful : proxy.dictionary.firstUseId (history ++ [value]) value =
              Int32.ofInt (-2 - proxy.transientCount) := by
            rw [firstUseId, stored, Option.getD_none, newBefore_append_self _ unused,
              records.transientCount_eq]
          rw [intern_of_unknown unknown next, lawful]
          rw [StringId.ofTransientIndex?_eq_some_iff_transientIndex?] at next
          exact ⟨rfl, records.addTransient unknown next unused⟩

/-- Interning several values assigns what the law of first use says after all of
them, and keeps the table right. -/
theorem Records.internAll {proxy : DictionaryProxy} {history : List String}
    (records : proxy.Records history) {values : List String}
    (room : proxy.dictionary.HasRoom (history ++ values)) :
    (proxy.internAll values).1 =
        .ok (values.map (proxy.dictionary.firstUseId (history ++ values))) ∧
      (proxy.internAll values).2.Records (history ++ values) := by
  induction values generalizing proxy history with
  | nil =>
      rw [List.append_nil]
      exact ⟨rfl, records⟩
  | cons value values ih =>
      have reordered : history ++ value :: values = (history ++ [value]) ++ values := by simp
      rw [reordered] at room ⊢
      obtain ⟨first, recorded⟩ := records.intern room.of_append
      rw [internAll_cons_of_ok first]
      rw [← proxy.dictionary_intern value] at room
      obtain ⟨rest, recordedLast⟩ := ih recorded room
      refine ⟨?_, recordedLast⟩
      have used : value ∈ history ++ [value] := by simp
      rw [rest, dictionary_intern, List.map_cons, firstUseId_append_of_mem _ used]
      rfl

/-- Every call keeps the table right for the values that it interns. -/
theorem Records.perform {proxy : DictionaryProxy} {history : List String}
    (records : proxy.Records history) {call : ProxyCall}
    (room : proxy.dictionary.HasRoom (history ++ call.interned)) :
    (proxy.perform call).2.Records (history ++ call.interned) := by
  have unchanged : proxy.Records (history ++ []) := by
    rw [List.append_nil]
    exact records
  cases call with
  | string id => exact unchanged
  | strings ids => exact unchanged
  | idOf value => exact unchanged
  | intern value => exact (records.intern room).2
  | internAll values => exact (records.internAll room).2

end DictionaryProxy

end RowFunctions

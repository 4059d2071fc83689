import RowFunctions.Proofs.FailedCalls
import RowFunctions.Proofs.StoredIdentifiers

/-!
# The ranges of string identifiers

A proxy sorts every word of 32 bits into one of four ranges.  The words from `0` upwards
stand for stored strings as far as the dictionary goes, and the words from `-2` downwards
for transient strings as far as the table goes.  The word `-1` and the smallest word
stand for no string whatever was added, and all others for strings that are not there
yet.  That the newest transient string never reaches the smallest word is an invariant of
the table: it has at most as many strings as there are words between the two.
-/

namespace RowFunctions

namespace DictionaryProxy

section Adding

variable {Kept : DictionaryProxy → Prop}
  (adds : ∀ (proxy : DictionaryProxy) value id, proxy.getId? value = none →
    StringId.transientIndex? id = some proxy.transientCount → Kept proxy →
      Kept (proxy.addTransient value id))
include adds

theorem intern_induction {proxy : DictionaryProxy} (kept : Kept proxy) (value : String) :
    Kept (proxy.intern value).2 := by
  rcases proxy.intern_cases value with same | ⟨id, unknown, next, interned⟩
  · rw [same]
    exact kept
  · rw [interned]
    exact adds proxy value id unknown next kept

theorem internAll_induction {proxy : DictionaryProxy} (kept : Kept proxy)
    (values : List String) : Kept (proxy.internAll values).2 := by
  induction values generalizing proxy with
  | nil => exact kept
  | cons value values ih =>
      have first := intern_induction adds kept value
      cases interned : (proxy.intern value).1 with
      | error error =>
          rw [internAll_cons_of_error interned]
          exact first
      | ok id =>
          rw [internAll_cons_of_ok interned]
          exact ih first

/-- What holds of a proxy and is kept when a new transient string gets the identifier of
the next position holds after any calls. -/
theorem after_induction {proxy : DictionaryProxy} (kept : Kept proxy)
    (calls : List ProxyCall) : Kept (proxy.after calls) := by
  induction calls generalizing proxy with
  | nil => exact kept
  | cons call calls ih =>
      apply ih
      cases call with
      | string id => exact kept
      | strings ids => exact kept
      | idOf value => exact kept
      | intern value => exact intern_induction adds kept value
      | internAll values => exact internAll_induction adds kept values

end Adding

theorem dictionary_after (proxy : DictionaryProxy) (calls : List ProxyCall) :
    (proxy.after calls).dictionary = proxy.dictionary :=
  @after_induction (fun later => later.dictionary = proxy.dictionary)
    (fun _ _ _ _ _ same => same) proxy rfl calls

/-- The identifiers of a transient table end above the smallest word. -/
def EndsInRange (proxy : DictionaryProxy) : Prop := proxy.transientCount + 2 ≤ 2 ^ 31

theorem transientCount_addTransient (proxy : DictionaryProxy) (value : String) (id : StringId) :
    (proxy.addTransient value id).transientCount = proxy.transientCount + 1 := by
  simp [transientCount, addTransient, StringTable.size]

theorem endsInRange_after (dictionary : StringDictionary) (calls : List ProxyCall) :
    ((ofDictionary dictionary).after calls).EndsInRange := by
  have start : (ofDictionary dictionary).EndsInRange := by
    change 0 + 2 ≤ 2 ^ 31
    decide
  refine after_induction ?_ start calls
  intro proxy value id _ next _
  have fits := ((StringId.transientIndex?_eq_some_iff id _).mp next).2
  rw [EndsInRange, transientCount_addTransient]
  omega

/-- An identifier is that of a stored string or of a transient one. -/
def Holds (proxy : DictionaryProxy) (id : StringId) : Prop :=
  0 ≤ id.toInt ∧ id.toInt < proxy.dictionary.size ∨
    -2 - proxy.transientCount < id.toInt ∧ id.toInt ≤ -2

theorem exists_getAt?_iff (position? : Option Nat) (table : StringTable) :
    (∃ value, position?.bind table.getAt? = some value) ↔
      ∃ position, position? = some position ∧ position < table.size := by
  simp only [Option.bind_eq_some_iff, StringTable.getAt?, StringTable.size]
  constructor
  · rintro ⟨value, position, reads, stands⟩
    exact ⟨position, reads, (List.getElem?_eq_some_iff.mp stands).1⟩
  · rintro ⟨position, reads, below⟩
    exact ⟨_, position, reads, List.getElem?_eq_getElem below⟩

theorem EndsInRange.exists_getString_eq_ok_iff {proxy : DictionaryProxy}
    (ends : proxy.EndsInRange) (id : StringId) :
    (∃ value, proxy.getString id = .ok value) ↔ proxy.Holds id := by
  simp only [getString_eq_ok_iff_bind, exists_or, exists_getAt?_iff,
    StringId.storedIndex?_eq_some_iff, StringId.transientIndex?_eq_some_iff]
  unfold EndsInRange transientCount at ends
  unfold Holds transientCount StringDictionary.size
  constructor
  · rintro (⟨position, reads, below⟩ | ⟨position, ⟨reads, -⟩, below⟩) <;> omega
  · rintro (⟨nonneg, below⟩ | ⟨above, first⟩)
    · exact .inl ⟨id.toInt.toNat, by omega, by omega⟩
    · exact .inr ⟨(-2 - id.toInt).toNat, ⟨by omega, by omega⟩, by omega⟩

/-- Exactly the word `-1` and the smallest word stand for no string at all. -/
theorem getString_eq_invalidString_iff (proxy : DictionaryProxy) (id : StringId) :
    proxy.getString id = .error (.invalidString proxy.dictionary.id id) ↔
      id = -1 ∨ id = StringId.invalid := by
  have smallest := id.le_toInt
  have values : (-1 : StringId).toInt = -1 ∧ StringId.invalid.toInt = -2 ^ 31 := by decide
  rw [← Int32.toInt_inj, ← Int32.toInt_inj, values.1, values.2]
  unfold getString
  by_cases nonneg : 0 ≤ id
  · have value := (StringId.nonneg_iff_toInt id).mp nonneg
    rw [if_pos nonneg]
    cases proxy.dictionary.getString? id <;> simp <;> omega
  · have value := mt (StringId.nonneg_iff_toInt id).mpr nonneg
    have range := StringId.isTransient_eq_true_iff id
    rw [if_neg nonneg, StringId.transientIndex?]
    by_cases transient : StringId.isTransient id = true
    · have bounds := range.mp transient
      simp only [transient, if_true]
      cases proxy.transients.getAt? (StringId.firstTransient - id).toInt.toNat <;> simp <;> omega
    · have outside := mt range.mpr transient
      simp only [transient, Bool.false_eq_true, if_false, true_iff]
      omega

/-- Every other identifier that is not decoded is reported as unknown. -/
theorem EndsInRange.getString_eq_unknownString_iff {proxy : DictionaryProxy}
    (ends : proxy.EndsInRange) (id : StringId) :
    proxy.getString id = .error (.unknownString proxy.dictionary.id id) ↔
      ¬ proxy.Holds id ∧ ¬ (id = -1 ∨ id = StringId.invalid) := by
  rw [← ends.exists_getString_eq_ok_iff, ← getString_eq_invalidString_iff]
  cases answer : proxy.getString id with
  | ok value => simp
  | error error =>
      rcases error_of_getString answer with unknown | rejected
      · simp [unknown]
      · simp [rejected]

/-- The position of a transient identifier is computed without overflow. -/
theorem position_of_isTransient {id : StringId} (transient : StringId.isTransient id = true) :
    (StringId.firstTransient - id).toInt = StringId.firstTransient.toInt - id.toInt ∧
      0 ≤ (StringId.firstTransient - id).toInt := by
  have bounds := (StringId.isTransient_eq_true_iff id).mp transient
  have first : StringId.firstTransient.toInt = -2 := by decide
  rw [StringId.toInt_firstTransient_sub bounds.1 bounds.2, first]
  omega

theorem exists_getStrings_eq_ok_iff (proxy : DictionaryProxy) (ids : List StringId) :
    (∃ values, proxy.getStrings ids = .ok values) ↔
      ∀ id ∈ ids, ∃ value, proxy.getString id = .ok value := by
  induction ids with
  | nil => simp [getStrings]
  | cons id ids ih =>
      rw [List.forall_mem_cons, ← ih, getStrings]
      cases proxy.getString id with
      | error error => simp
      | ok value => cases proxy.getStrings ids <;> simp

/-- In every state of a proxy, exactly the identifiers of stored strings and of transient
strings so far are decoded.  The word `-1` and the smallest word are reported as invalid
and all others as unknown, each with the dictionary and itself.  The position of a
transient identifier is computed without overflow.  Several identifiers are decoded
exactly if each of them is. -/
theorem every_identifier_is_classified (dictionary : StringDictionary)
    (calls : List ProxyCall) :
    let proxy := (ofDictionary dictionary).after calls
    (∀ id : StringId,
      let holds := 0 ≤ id.toInt ∧ id.toInt < dictionary.size ∨
        -2 - proxy.transientCount < id.toInt ∧ id.toInt ≤ -2
      let invalid := id = -1 ∨ id = Int32.minValue
      ((∃ value, proxy.getString id = .ok value) ↔ holds) ∧
        (proxy.getString id = .error (.invalidString dictionary.id id) ↔ invalid) ∧
        (proxy.getString id = .error (.unknownString dictionary.id id) ↔
          ¬ holds ∧ ¬ invalid) ∧
        (StringId.isTransient id = true →
          (StringId.firstTransient - id).toInt = StringId.firstTransient.toInt - id.toInt ∧
            0 ≤ (StringId.firstTransient - id).toInt)) ∧
      ∀ ids, (∃ values, proxy.getStrings ids = .ok values) ↔
        ∀ id ∈ ids, ∃ value, proxy.getString id = .ok value := by
  intro proxy
  have same : proxy.dictionary = dictionary := dictionary_after _ calls
  have ends : proxy.EndsInRange := endsInRange_after dictionary calls
  refine ⟨fun id => ?_, proxy.exists_getStrings_eq_ok_iff⟩
  have decoded := ends.exists_getString_eq_ok_iff id
  have refused := proxy.getString_eq_invalidString_iff id
  have unknown := ends.getString_eq_unknownString_iff id
  rw [Holds, same] at decoded unknown
  rw [same] at refused
  exact ⟨decoded, refused, unknown, position_of_isTransient⟩

/-- With two stored and two transient strings, the newest one is decoded and the next is
unknown, the two words that stand for nothing are invalid, and the identifier farthest
down has a position. -/
theorem every_identifier_is_classified_after_interning :
    let dictionary : StringDictionary :=
      ⟨7, ⟨["alpha", "beta"], [("beta", 1), ("alpha", 0)]⟩⟩
    let proxy := (ofDictionary dictionary).after [.internAll ["gamma", "beta", "delta"]]
    (∃ value, proxy.getString (-3) = .ok value) ∧
      proxy.getString (-4) = .error (.unknownString 7 (-4)) ∧
      proxy.getString (-1) = .error (.invalidString 7 (-1)) ∧
      proxy.getString Int32.minValue = .error (.invalidString 7 Int32.minValue) ∧
      StringId.isTransient (Int32.minValue + 1) = true ∧
      (StringId.firstTransient - (Int32.minValue + 1)).toInt =
        StringId.firstTransient.toInt - (Int32.minValue + 1).toInt ∧
      ∃ values, proxy.getStrings [-3, 1] = .ok values := by
  intro dictionary proxy
  obtain ⟨classified, several⟩ :=
    every_identifier_is_classified dictionary [.internAll ["gamma", "beta", "delta"]]
  have newest : ∃ value, proxy.getString (-3) = .ok value :=
    (classified (-3)).1.mpr (by decide)
  have lowest : StringId.isTransient (Int32.minValue + 1) = true := by decide
  refine ⟨newest, (classified (-4)).2.2.1.mpr (by decide), (classified (-1)).2.1.mpr (by decide),
    (classified Int32.minValue).2.1.mpr (by decide), lowest,
    ((classified (Int32.minValue + 1)).2.2.2 lowest).1, (several [-3, 1]).mpr ?_⟩
  intro id member
  simp only [List.mem_cons, List.not_mem_nil, or_false] at member
  rcases member with rfl | rfl
  · exact newest
  · exact (classified 1).1.mpr (by decide)

end DictionaryProxy

end RowFunctions

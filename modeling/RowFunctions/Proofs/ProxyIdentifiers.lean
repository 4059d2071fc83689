import RowFunctions.DictionaryProxies
import RowFunctions.Proofs.StringTables

/-!
# Identifiers and strings of a proxy

A proxy answers questions in both directions from two tables, that of its
dictionary and that of its transient strings.  This file shows that the two
directions are inverse to each other after any calls, and that a pair of an
identifier and its string, once there, stays for ever.

The invariant has three parts: both tables are exact, each for its own reading of
identifiers, and no transient string is stored in the dictionary.
-/

namespace RowFunctions

namespace DictionaryProxy

/-- Both tables of a proxy are exact and hold different strings. -/
structure IsConsistent (proxy : DictionaryProxy) : Prop where
  stored : proxy.dictionary.IsExact
  transient : proxy.transients.IsExact StringId.transientIndex?
  disjoint : ∀ value, proxy.transients.getId? value ≠ none →
    proxy.dictionary.getId? value = none

/-- A proxy knows all that another one knows, under the same identifiers. -/
def Extends (later earlier : DictionaryProxy) : Prop :=
  ∀ value id, earlier.getId? value = some id → later.getId? value = some id

theorem Extends.refl (proxy : DictionaryProxy) : proxy.Extends proxy :=
  fun _ _ known => known

theorem Extends.trans {last middle first : DictionaryProxy} (late : last.Extends middle)
    (early : middle.Extends first) : last.Extends first :=
  fun value id known => late value id (early value id known)

theorem isConsistent_ofDictionary {dictionary : StringDictionary}
    (inverse : dictionary.IsExact) : (ofDictionary dictionary).IsConsistent where
  stored := inverse
  transient := StringTable.isExact_empty _
  disjoint := by
    intro value transient
    exact (transient rfl).elim

theorem intern_of_known {proxy : DictionaryProxy} {value : String} {id : StringId}
    (known : proxy.getId? value = some id) : proxy.intern value = (.ok id, proxy) := by
  simp [intern, known]

theorem intern_of_unknown {proxy : DictionaryProxy} {value : String} {id : StringId}
    (unknown : proxy.getId? value = none)
    (next : StringId.ofTransientIndex? proxy.transientCount = some id) :
    proxy.intern value = (.ok id, proxy.addTransient value id) := by
  simp [intern, unknown, next]

/-- What interning a string does to a proxy: nothing, or a string that the proxy
did not know gets the identifier of the next transient position. -/
theorem intern_cases (proxy : DictionaryProxy) (value : String) :
    (proxy.intern value).2 = proxy ∨
      ∃ id, proxy.getId? value = none ∧
        StringId.transientIndex? id = some proxy.transientCount ∧
        proxy.intern value = (.ok id, proxy.addTransient value id) := by
  cases known : proxy.getId? value with
  | some id =>
      rw [intern_of_known known]
      exact .inl rfl
  | none =>
      cases next : StringId.ofTransientIndex? proxy.transientCount with
      | none => exact .inl (by simp [intern, known, next])
      | some id =>
          have reads := next
          rw [StringId.ofTransientIndex?_eq_some_iff_transientIndex?] at reads
          exact .inr ⟨id, rfl, reads, intern_of_unknown known next⟩

theorem getId?_eq_none_iff (proxy : DictionaryProxy) (value : String) :
    proxy.getId? value = none ↔
      proxy.dictionary.getId? value = none ∧ proxy.transients.getId? value = none := by
  rw [getId?, Option.or_eq_none_iff]

theorem IsConsistent.addTransient {proxy : DictionaryProxy} (consistent : proxy.IsConsistent)
    {value : String} {id : StringId} (unknown : proxy.getId? value = none)
    (next : StringId.transientIndex? id = some proxy.transientCount) :
    (proxy.addTransient value id).IsConsistent where
  stored := consistent.stored
  transient := by
    have fresh := (proxy.getId?_eq_none_iff value).mp unknown
    apply consistent.transient.push fresh.2
    intro other
    exact StringId.transientIndex?_eq_some_iff_eq next other
  disjoint := by
    intro other transient
    rw [DictionaryProxy.addTransient, StringTable.getId?_push] at transient
    by_cases same : other = value
    · rw [same]
      exact ((proxy.getId?_eq_none_iff value).mp unknown).1
    · rw [if_neg same] at transient
      exact consistent.disjoint other transient

theorem extends_addTransient {proxy : DictionaryProxy} {value : String} (id : StringId)
    (unknown : proxy.getId? value = none) :
    (proxy.addTransient value id).Extends proxy := by
  intro other otherId known
  have different : other ≠ value := by
    rintro rfl
    rw [unknown] at known
    contradiction
  unfold getId? addTransient at *
  rw [StringTable.getId?_push, if_neg different]
  exact known

theorem IsConsistent.intern {proxy : DictionaryProxy} (consistent : proxy.IsConsistent)
    (value : String) :
    (proxy.intern value).2.IsConsistent ∧ (proxy.intern value).2.Extends proxy := by
  rcases proxy.intern_cases value with same | ⟨id, unknown, next, interned⟩
  · rw [same]
    exact ⟨consistent, .refl proxy⟩
  · rw [interned]
    exact ⟨consistent.addTransient unknown next, extends_addTransient id unknown⟩

theorem internAll_cons_of_error {proxy : DictionaryProxy} {value : String}
    {error : DictionaryError} (failed : (proxy.intern value).1 = .error error)
    (values : List String) :
    proxy.internAll (value :: values) = (.error error, (proxy.intern value).2) := by
  rw [internAll]
  generalize proxy.intern value = interned at failed ⊢
  obtain ⟨answer, middle⟩ := interned
  subst failed
  rfl

theorem internAll_cons_of_ok {proxy : DictionaryProxy} {value : String} {id : StringId}
    (interned : (proxy.intern value).1 = .ok id) (values : List String) :
    proxy.internAll (value :: values) =
      (((proxy.intern value).2.internAll values).1.map (id :: ·),
        ((proxy.intern value).2.internAll values).2) := by
  rw [internAll]
  generalize proxy.intern value = result at interned ⊢
  obtain ⟨answer, middle⟩ := result
  subst interned
  generalize rest : middle.internAll values = internedRest
  obtain ⟨answers, last⟩ := internedRest
  cases answers <;> simp [rest, Except.map]

theorem IsConsistent.internAll {proxy : DictionaryProxy} (consistent : proxy.IsConsistent)
    (values : List String) :
    (proxy.internAll values).2.IsConsistent ∧ (proxy.internAll values).2.Extends proxy := by
  induction values generalizing proxy with
  | nil => exact ⟨consistent, .refl proxy⟩
  | cons value values ih =>
      have first := consistent.intern value
      cases interned : (proxy.intern value).1 with
      | error error =>
          rw [internAll_cons_of_error interned]
          exact first
      | ok id =>
          have rest := ih first.1
          rw [internAll_cons_of_ok interned]
          exact ⟨rest.1, rest.2.trans first.2⟩

/-- Every call keeps a proxy consistent and forgets nothing. -/
theorem IsConsistent.perform {proxy : DictionaryProxy} (consistent : proxy.IsConsistent)
    (call : ProxyCall) :
    (proxy.perform call).2.IsConsistent ∧ (proxy.perform call).2.Extends proxy := by
  cases call with
  | string id => exact ⟨consistent, .refl proxy⟩
  | strings ids => exact ⟨consistent, .refl proxy⟩
  | idOf value => exact ⟨consistent, .refl proxy⟩
  | intern value => exact consistent.intern value
  | internAll values => exact consistent.internAll values

theorem dictionary_intern (proxy : DictionaryProxy) (value : String) :
    (proxy.intern value).2.dictionary = proxy.dictionary := by
  rcases proxy.intern_cases value with same | ⟨id, _, _, interned⟩
  · rw [same]
  · rw [interned]
    rfl

theorem dictionary_internAll (proxy : DictionaryProxy) (values : List String) :
    (proxy.internAll values).2.dictionary = proxy.dictionary := by
  induction values generalizing proxy with
  | nil => rfl
  | cons value values ih =>
      cases interned : (proxy.intern value).1 with
      | error error =>
          rw [internAll_cons_of_error interned]
          exact proxy.dictionary_intern value
      | ok id =>
          rw [internAll_cons_of_ok interned]
          exact (ih _).trans (proxy.dictionary_intern value)

/-- No call changes the dictionary behind a proxy. -/
theorem dictionary_perform (proxy : DictionaryProxy) (call : ProxyCall) :
    (proxy.perform call).2.dictionary = proxy.dictionary := by
  cases call with
  | string id => rfl
  | strings ids => rfl
  | idOf value => rfl
  | intern value => exact proxy.dictionary_intern value
  | internAll values => exact proxy.dictionary_internAll values

/-- The proxy after some calls, made one after the other. -/
def after (proxy : DictionaryProxy) (calls : List ProxyCall) : DictionaryProxy :=
  calls.foldl (fun proxy call => (proxy.perform call).2) proxy

theorem IsConsistent.after {proxy : DictionaryProxy} (consistent : proxy.IsConsistent)
    (calls : List ProxyCall) :
    (proxy.after calls).IsConsistent ∧ (proxy.after calls).Extends proxy := by
  induction calls generalizing proxy with
  | nil => exact ⟨consistent, .refl proxy⟩
  | cons call calls ih =>
      have first := consistent.perform call
      have rest := ih first.1
      exact ⟨rest.1, rest.2.trans first.2⟩

theorem getString_eq_ok_iff_bind (proxy : DictionaryProxy) (id : StringId) (value : String) :
    proxy.getString id = .ok value ↔
      (StringId.storedIndex? id).bind proxy.dictionary.table.getAt? = some value ∨
        (StringId.transientIndex? id).bind proxy.transients.getAt? = some value := by
  unfold getString
  by_cases nonneg : 0 ≤ id
  · have notTransient : StringId.transientIndex? id = none := by
      rw [StringId.transientIndex?_eq_none_of_nonneg nonneg]
    rw [if_pos nonneg, notTransient, ← StringDictionary.getString?_eq_bind]
    cases found : proxy.dictionary.getString? id <;> simp
  · have notStored : StringId.storedIndex? id = none := by
      rw [StringId.storedIndex?, if_neg nonneg]
    rw [if_neg nonneg, notStored]
    cases index : StringId.transientIndex? id with
    | none => simp
    | some position => cases found : proxy.transients.getAt? position <;> simp [found]

/-- In a consistent proxy decoding and looking up are inverse to each other. -/
theorem IsConsistent.getString_eq_ok_iff {proxy : DictionaryProxy}
    (consistent : proxy.IsConsistent) (id : StringId) (value : String) :
    proxy.getString id = .ok value ↔ proxy.getId? value = some id := by
  rw [getString_eq_ok_iff_bind, ← consistent.stored value id, ← consistent.transient value id,
    getId?, Option.or_eq_some_iff]
  have hidden (transient : proxy.transients.getId? value = some id) :
      proxy.dictionary.table.getId? value = none :=
    consistent.disjoint value (by simp [transient])
  constructor
  · rintro (stored | transient)
    · exact .inl stored
    · exact .inr ⟨hidden transient, transient⟩
  · rintro (stored | ⟨-, transient⟩)
    · exact .inl stored
    · exact .inr transient

/-- Whatever is asked of a proxy, decoding and looking up stay inverse to each
other, and a string keeps its identifier for ever.  So no string has two
identifiers, stored or transient, and no identifier has two strings. -/
theorem identifiers_correspond_to_strings {id : DictionaryId} {strings : List String}
    {dictionary : StringDictionary}
    (built : StringDictionary.ofStrings id strings = .ok dictionary) (calls : List ProxyCall) :
    let proxy := (ofDictionary dictionary).after calls
    (∀ string value, proxy.getString string = .ok value ↔ proxy.getId? value = some string) ∧
      (∀ string value later, proxy.getString string = .ok value →
        (proxy.after later).getString string = .ok value ∧
          (proxy.after later).getId? value = some string) ∧
      (∀ first second value, proxy.getString first = .ok value →
        proxy.getString second = .ok value → first = second) ∧
      ∀ string value other, proxy.getId? value = some string →
        proxy.getId? other = some string → value = other := by
  intro proxy
  have start := isConsistent_ofDictionary (StringDictionary.isExact_of_ofStrings built)
  have consistent : proxy.IsConsistent := (start.after calls).1
  refine ⟨consistent.getString_eq_ok_iff, ?_, ?_, ?_⟩
  · intro string value later decoded
    have reached := consistent.after later
    have known : (proxy.after later).getId? value = some string :=
      reached.2 value string ((consistent.getString_eq_ok_iff string value).mp decoded)
    exact ⟨(reached.1.getString_eq_ok_iff string value).mpr known, known⟩
  · intro first second value one two
    rw [consistent.getString_eq_ok_iff] at one two
    exact Option.some.inj (one.symm.trans two)
  · intro string value other one two
    rw [← consistent.getString_eq_ok_iff] at one two
    exact Except.ok.inj (one.symm.trans two)

/-- A repeated string of the list and a repeated transient string take up no
identifier, and later calls change none. -/
theorem identifiers_correspond_to_strings_of_repeated :
    let dictionary : StringDictionary :=
      ⟨7, ⟨["alpha", "beta"], [("beta", 1), ("alpha", 0)]⟩⟩
    let proxy := (ofDictionary dictionary).after [.internAll ["gamma", "beta", "gamma", "delta"]]
    StringDictionary.ofStrings 7 ["alpha", "beta", "alpha"] = .ok dictionary ∧
      proxy.getString (-3) = .ok "delta" ∧ proxy.getId? "delta" = some (-3) ∧
      (proxy.after [.intern "omega", .string 9]).getString (-3) = .ok "delta" := by
  intro dictionary proxy
  have built : StringDictionary.ofStrings 7 ["alpha", "beta", "alpha"] = .ok dictionary := by
    decide
  have decoded : proxy.getString (-3) = .ok "delta" := by decide
  have corresponds := identifiers_correspond_to_strings built
    [.internAll ["gamma", "beta", "gamma", "delta"]]
  exact ⟨built, decoded, (corresponds.1 (-3) "delta").mp decoded,
    (corresponds.2.1 (-3) "delta" _ decoded).1⟩

end DictionaryProxy

end RowFunctions

import RowFunctions.Proofs.CatalogAcceptance

/-!
# Identifiers of stored strings

A dictionary grows by adding strings one after the other, first those of the list it is
made of and then any others.  An identifier that was given once is never given to
another string, and a string keeps its identifier.  So what a dictionary answers is
settled by the list of its strings alone: the identifier of a string is the position at
which the string stands first.
-/

namespace RowFunctions

namespace StringDictionary

/-- A dictionary knows all that another one knows, under the same identifiers. -/
def Extends (later earlier : StringDictionary) : Prop :=
  ∀ value id, earlier.getId? value = some id → later.getId? value = some id

theorem Extends.refl (dictionary : StringDictionary) : dictionary.Extends dictionary :=
  fun _ _ known => known

/-- The identifiers that adding strings one after the other gives, and the dictionary
after them. -/
def addEach (dictionary : StringDictionary) :
    List String → Except DictionaryError (List StringId × StringDictionary)
  | [] => .ok ([], dictionary)
  | value :: values =>
      match dictionary.getOrAdd value with
      | .error error => .error error
      | .ok (id, next) => (next.addEach values).map fun (ids, last) => (id :: ids, last)

theorem addAll_append (dictionary : StringDictionary) (values more : List String) :
    dictionary.addAll (values ++ more) =
      (dictionary.addAll values).bind fun middle => middle.addAll more := by
  induction values generalizing dictionary with
  | nil => rfl
  | cons value values ih =>
      rw [List.cons_append, addAll, addAll]
      cases dictionary.getOrAdd value with
      | error error => rfl
      | ok result => exact ih result.2

/-- Dictionaries that are made of a list can be made of its first strings, to which the
others are added. -/
theorem exists_of_addAll_append {dictionary last : StringDictionary} {values more : List String}
    (added : dictionary.addAll (values ++ more) = .ok last) :
    ∃ middle, dictionary.addAll values = .ok middle ∧ middle.addAll more = .ok last := by
  rw [addAll_append] at added
  cases first : dictionary.addAll values with
  | error error => rw [first] at added; cases added
  | ok middle => exact ⟨middle, rfl, by rwa [first] at added⟩

/-- Adding one by one ends with the same dictionary as adding all. -/
theorem exists_addEach_of_addAll {dictionary last : StringDictionary} {values : List String}
    (added : dictionary.addAll values = .ok last) :
    ∃ ids, dictionary.addEach values = .ok (ids, last) := by
  induction values generalizing dictionary with
  | nil =>
      cases added
      exact ⟨[], rfl⟩
  | cons value values ih =>
      rw [addAll] at added
      cases step : dictionary.getOrAdd value with
      | error error => rw [step] at added; cases added
      | ok result =>
          rw [step] at added
          obtain ⟨ids, rest⟩ := ih added
          exact ⟨result.1 :: ids, by rw [addEach, step]; simp only [rest]; rfl⟩

/-- What adding a string answers is known from then on, beside all that was known. -/
theorem getOrAdd_keeps {dictionary after : StringDictionary} {value : String} {id : StringId}
    (added : dictionary.getOrAdd value = .ok (id, after)) :
    after.getId? value = some id ∧ after.Extends dictionary := by
  unfold getOrAdd at added
  cases found : dictionary.getId? value with
  | some known =>
      rw [found] at added
      obtain ⟨rfl, rfl⟩ := Prod.mk.inj (Except.ok.inj added)
      exact ⟨found, .refl _⟩
  | none =>
      rw [found] at added
      by_cases room : (dictionary.size : Int) ≤ Int32.maxValue.toInt
      · simp only [room, if_true, Except.ok.injEq, Prod.mk.injEq] at added
        obtain ⟨rfl, rfl⟩ := added
        refine ⟨by simp [getId?, StringTable.getId?_push], ?_⟩
        intro other otherId known
        have different : other ≠ value := by
          rintro rfl
          rw [found] at known
          contradiction
        rw [getId?, StringTable.getId?_push, if_neg different]
        exact known
      · simp only [room, if_false, reduceCtorEq] at added

/-- Every string that was added has at the end the identifier that was answered for it,
and nothing that was known before is forgotten. -/
theorem addEach_keeps {dictionary last : StringDictionary} {values : List String}
    {ids : List StringId} (added : dictionary.addEach values = .ok (ids, last)) :
    values.map last.getId? = ids.map some ∧ last.Extends dictionary := by
  induction values generalizing dictionary ids with
  | nil =>
      cases added
      exact ⟨rfl, .refl _⟩
  | cons value values ih =>
      rw [addEach] at added
      cases step : dictionary.getOrAdd value with
      | error error => rw [step] at added; cases added
      | ok result =>
          rw [step] at added
          cases rest : result.2.addEach values with
          | error error => simp [rest, Except.map] at added
          | ok more =>
              simp only [rest, Except.map, Except.ok.injEq, Prod.mk.injEq] at added
              obtain ⟨rfl, rfl⟩ := added
              have first := getOrAdd_keeps step
              have others := ih rest
              refine ⟨?_, fun other known before => others.2 _ _ (first.2 other known before)⟩
              rw [List.map_cons, List.map_cons, others.1, others.2 value result.1 first.1]

theorem size_le_of_ofStrings {id : DictionaryId} {strings : List String}
    {dictionary : StringDictionary} (built : ofStrings id strings = .ok dictionary) :
    dictionary.size ≤ 2 ^ 31 := by
  have distinct := ofStrings_cases id strings
  rw [size_eq_length_strings, (strings_ofStrings built).2.2]
  by_contra exceeded
  rw [if_neg exceeded, built] at distinct
  cases distinct

/-- Looking a string up and looking an identifier up are inverse to each other. -/
theorem IsExact.getId?_eq_some_iff {dictionary : StringDictionary}
    (inverse : dictionary.IsExact) (value : String) (id : StringId) :
    dictionary.getId? value = some id ↔ dictionary.getString? id = some value := by
  rw [getString?_eq_bind]
  exact inverse value id

section Positions

variable {dictionary : StringDictionary} (inverse : dictionary.IsExact)
  (bounded : dictionary.size ≤ 2 ^ 31)
include inverse bounded

/-- An exact dictionary finds a string under any position at which it stands. -/
theorem IsExact.getId?_of_stands {position : Nat} {value : String}
    (stands : dictionary.strings[position]? = some value) :
    dictionary.getId? value = some (Int32.ofNat position) := by
  have below : position < dictionary.size := (List.getElem?_eq_some_iff.mp stands).1
  have fits : position < 2 ^ 31 := by omega
  have reads := (StringId.storedIndex?_eq_some_iff_eq_ofNat fits _).mpr rfl
  exact (inverse value _).mpr (by rw [reads]; exact stands)

/-- No string stands twice in an exact dictionary. -/
theorem IsExact.nodup : dictionary.strings.Nodup := by
  rw [List.nodup_iff_getElem?_ne_getElem?]
  intro first second ordered below same
  have stands := List.getElem?_eq_getElem below
  have one := inverse.getId?_of_stands bounded (same.trans stands)
  have two := inverse.getId?_of_stands bounded stands
  have positions := congrArg Int32.toInt (Option.some.inj (one.symm.trans two))
  have size : dictionary.strings.length = dictionary.size := rfl
  rw [Int32.toInt_ofNat_of_lt (by omega), Int32.toInt_ofNat_of_lt (by omega)] at positions
  omega

variable (indexed : dictionary.table.IsIndexed)
include indexed

/-- What an exact dictionary finds for a string is the position at which the string stands
first. -/
theorem getId?_eq_idxOf (value : String) :
    dictionary.getId? value =
      if value ∈ dictionary.strings then
        some (Int32.ofNat (dictionary.strings.idxOf value))
      else none := by
  split
  · next listed => exact inverse.getId?_of_stands bounded (List.getElem?_idxOf listed)
  · next unlisted => exact (indexed value).mpr unlisted

theorem toInt_of_getId? {value : String} {id : StringId}
    (known : dictionary.getId? value = some id) : id.toInt = dictionary.strings.idxOf value := by
  rw [getId?_eq_idxOf inverse bounded indexed, Option.ite_none_right_eq_some] at known
  obtain ⟨listed, known⟩ := known
  have below : dictionary.strings.idxOf value < dictionary.size :=
    List.idxOf_lt_length_of_mem listed
  rw [← Option.some.inj known, Int32.toInt_ofNat_of_lt (by omega)]

/-- The answers to additions are the positions at which the strings stand at the end. -/
theorem map_toInt_of_addEach {earlier : StringDictionary} {values : List String}
    {ids : List StringId} (added : earlier.addEach values = .ok (ids, dictionary)) :
    ids.map Int32.toInt = values.map fun value => (dictionary.strings.idxOf value : Int) := by
  apply List.ext_getElem?
  intro position
  have answered := congrArg (·[position]?) (addEach_keeps added).1
  simp only [List.getElem?_map] at answered ⊢
  cases asked : values[position]? with
  | none => simpa [asked, eq_comm] using answered
  | some value =>
      rw [asked, Option.map_some, eq_comm, Option.map_eq_some_iff] at answered
      obtain ⟨id, given, known⟩ := answered
      rw [given, Option.map_some, Option.map_some,
        toInt_of_getId? inverse bounded indexed known.symm]

end Positions

theorem eraseDups_of_nodup {values : List String} (distinct : values.Nodup) :
    values.eraseDups = values := by
  induction values with
  | nil => rfl
  | cons value values ih =>
      obtain ⟨fresh, distinct⟩ := List.nodup_cons.mp distinct
      have others : values.filter (!· == value) = values := by
        rw [List.filter_eq_self]
        intro other member
        have different : other ≠ value := ne_of_mem_of_not_mem member fresh
        simp [different]
      rw [List.eraseDups_cons, others, ih distinct]

/-- A dictionary of different strings is made of a list of them. -/
theorem exists_ofStrings_of_nodup (id : DictionaryId) {values : List String}
    (distinct : values.Nodup) (bounded : values.length ≤ 2 ^ 31) :
    ∃ dictionary, ofStrings id values = .ok dictionary ∧ dictionary.strings = values := by
  have made := ofStrings_cases id values
  rw [eraseDups_of_nodup distinct, if_pos bounded] at made
  obtain ⟨dictionary, made⟩ := made
  exact ⟨dictionary, made, (strings_ofStrings made).2.2.trans (eraseDups_of_nodup distinct)⟩

theorem getString?_eq_none_iff (dictionary : StringDictionary) (id : StringId) :
    dictionary.getString? id = none ↔ ¬ (0 ≤ id.toInt ∧ id.toInt < dictionary.size) := by
  rw [getString?_eq_bind]
  unfold StringId.storedIndex?
  by_cases nonneg : 0 ≤ id
  · have value := (StringId.nonneg_iff_toInt id).mp nonneg
    rw [if_pos nonneg, Option.bind_some, StringTable.getAt?, List.getElem?_eq_none_iff, size,
      StringTable.size]
    omega
  · have value := mt (StringId.nonneg_iff_toInt id).mpr nonneg
    rw [if_neg nonneg]
    simp [value]

/-- Two dictionaries of the same strings give the same answers. -/
theorem answers_eq_of_strings {first second : StringDictionary}
    (same : first.strings = second.strings) (firstInverse : first.IsExact)
    (secondInverse : second.IsExact) (firstIndexed : first.table.IsIndexed)
    (secondIndexed : second.table.IsIndexed) (bounded : first.size ≤ 2 ^ 31) :
    (∀ value, first.getId? value = second.getId? value) ∧
      ∀ id, first.getString? id = second.getString? id := by
  have sameSize : second.size = first.size := (congrArg List.length same).symm
  constructor
  · intro value
    rw [getId?_eq_idxOf firstInverse bounded firstIndexed,
      getId?_eq_idxOf secondInverse (by omega) secondIndexed, same]
  · intro id
    have table : first.table.getAt? = second.table.getAt? :=
      funext fun position => congrArg (·[position]?) same
    rw [getString?_eq_bind, getString?_eq_bind, table]

/-- A dictionary is a list of strings to which new ones are appended.  It is made of any
list and grows by any others, as long as there are identifiers for the different ones:
its strings are the first occurrences of all that was added, and adding a string answers
the position of the string among them.  In every state looking a string up and looking
an identifier up are inverse to each other, only the positions of the list have a string,
and what was found is found ever after.  Making a dictionary of its own strings again
gives the same answers. -/
theorem additions_form_append_only_list (id : DictionaryId) (initial values later : List String)
    (room : (initial ++ values ++ later).eraseDups.length ≤ 2 ^ 31) :
    ∃ built state last rebuilt ids laterIds,
      ofStrings id initial = .ok built ∧ built.addEach values = .ok (ids, state) ∧
      state.addEach later = .ok (laterIds, last) ∧ ofStrings id state.strings = .ok rebuilt ∧
      state.strings = (initial ++ values).eraseDups ∧
      ids.map Int32.toInt = values.map (fun value => (state.strings.idxOf value : Int)) ∧
      (∀ value string, state.getId? value = some string ↔
        state.getString? string = some value) ∧
      (∀ string, state.getString? string = none ↔
        ¬ (0 ≤ string.toInt ∧ string.toInt < state.size)) ∧
      (∀ value string, state.getId? value = some string → last.getId? value = some string) ∧
      (∀ string value, state.getString? string = some value →
        last.getString? string = some value) ∧
      (∀ value, rebuilt.getId? value = state.getId? value) ∧
      ∀ string, rebuilt.getString? string = state.getString? string := by
  have made := ofStrings_cases id (initial ++ values ++ later)
  rw [if_pos room] at made
  obtain ⟨last, made⟩ := made
  obtain ⟨state, madeState, grown⟩ := exists_of_addAll_append made
  obtain ⟨built, madeBuilt, filled⟩ := exists_of_addAll_append madeState
  obtain ⟨ids, added⟩ := exists_addEach_of_addAll filled
  obtain ⟨laterIds, addedLater⟩ := exists_addEach_of_addAll grown
  have inverse : state.IsExact := isExact_of_ofStrings madeState
  have lastInverse : last.IsExact := isExact_of_ofStrings made
  obtain ⟨-, indexed, strings⟩ := strings_ofStrings madeState
  have bounded : state.size ≤ 2 ^ 31 := size_le_of_ofStrings madeState
  obtain ⟨rebuilt, remade, sameStrings⟩ :=
    exists_ofStrings_of_nodup id (inverse.nodup bounded) bounded
  have answers := answers_eq_of_strings sameStrings (isExact_of_ofStrings remade) inverse
    (strings_ofStrings remade).2.1 indexed (size_le_of_ofStrings remade)
  have kept : last.Extends state := (addEach_keeps addedLater).2
  refine ⟨built, state, last, rebuilt, ids, laterIds, madeBuilt, added, addedLater, remade,
    strings, map_toInt_of_addEach inverse bounded indexed added, inverse.getId?_eq_some_iff,
    state.getString?_eq_none_iff, kept, ?_, answers.1, answers.2⟩
  intro string value found
  rw [← lastInverse.getId?_eq_some_iff]
  exact kept value string ((inverse.getId?_eq_some_iff value string).mpr found)

/-- Strings that are there already take up no identifier, whether the dictionary was made
with them or they were added. -/
theorem additions_form_append_only_list_of_repeated :
    let initial := ["alpha", "beta", "alpha"]
    let values := ["gamma", "beta", "gamma"]
    (initial ++ values ++ ["delta"]).eraseDups.length ≤ 2 ^ 31 ∧
      ∃ built state last ids laterIds, ofStrings 7 initial = .ok built ∧
        built.addEach values = .ok (ids, state) ∧ state.addEach ["delta"] = .ok (laterIds, last) ∧
        state.strings = ["alpha", "beta", "gamma"] ∧ ids.map Int32.toInt = [2, 1, 2] ∧
        last.getString? 2 = some "gamma" := by
  intro initial values
  have room : (initial ++ values ++ ["delta"]).eraseDups.length ≤ 2 ^ 31 := by decide
  refine ⟨room, ?_⟩
  obtain ⟨built, state, last, -, ids, laterIds, made, added, addedLater, -, strings, answers,
    corresponds, -, -, kept, -⟩ := additions_form_append_only_list 7 initial values ["delta"] room
  have listed : state.strings = ["alpha", "beta", "gamma"] := strings.trans (by decide)
  have found : state.getString? 2 = some "gamma" := by
    rw [getString?_eq_bind]
    exact congrArg (·[2]?) listed
  refine ⟨built, state, last, ids, laterIds, made, added, addedLater, listed, ?_,
    kept 2 "gamma" found⟩
  rw [answers, listed]
  decide

end StringDictionary

end RowFunctions

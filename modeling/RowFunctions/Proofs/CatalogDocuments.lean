import RowFunctions.DictionaryCatalogs
import RowFunctions.Proofs.PlanFields
import RowFunctions.Proofs.StringTables

/-!
# Catalogs of dictionary documents

A document gives a list of strings for a dictionary: the value of the last member
whose key names it.  This file shows that the catalog read from a document has
exactly the dictionaries for which the document gives a list, each with the
strings of its list in order and without later duplicates.
-/

namespace RowFunctions

namespace StringTable

/-- A table has identifiers for the strings in it and for no others. -/
def IsIndexed (table : StringTable) : Prop :=
  ∀ value, table.getId? value = none ↔ value ∉ table.strings

theorem isIndexed_empty : IsIndexed empty := by
  intro value
  simp [empty, getId?]

theorem IsIndexed.push {table : StringTable} (indexed : table.IsIndexed) (value : String)
    (id : StringId) : (table.push value id).IsIndexed := by
  intro other
  rw [getId?_push, strings_push, List.mem_append, List.mem_singleton]
  by_cases same : other = value
  · simp [same]
  · simp [same, indexed other]

end StringTable

namespace StringDictionary

/-- Adding a string appends it if it is new. -/
theorem strings_getOrAdd {dictionary after : StringDictionary} {value : String} {id : StringId}
    (indexed : dictionary.table.IsIndexed) (added : dictionary.getOrAdd value = .ok (id, after)) :
    after.id = dictionary.id ∧ after.table.IsIndexed ∧
      after.strings = if value ∈ dictionary.strings then dictionary.strings
        else dictionary.strings ++ [value] := by
  unfold getOrAdd at added
  cases found : dictionary.getId? value with
  | some known =>
      rw [found] at added
      obtain ⟨-, rfl⟩ := Prod.mk.inj (Except.ok.inj added)
      have listed : value ∈ dictionary.strings := by
        by_contra unlisted
        rw [getId?, (indexed value).mpr unlisted] at found
        contradiction
      exact ⟨rfl, indexed, (if_pos listed).symm⟩
  | none =>
      rw [found] at added
      have unlisted : value ∉ dictionary.strings := (indexed value).mp found
      by_cases room : (dictionary.size : Int) ≤ Int32.maxValue.toInt
      · simp only [room, if_true, Except.ok.injEq, Prod.mk.injEq] at added
        obtain ⟨-, rfl⟩ := added
        exact ⟨rfl, indexed.push value _, (if_neg unlisted).symm⟩
      · simp only [room, if_false, reduceCtorEq] at added

/-- The strings of a list that are new after one more was added. -/
theorem filter_notMem_append_singleton (known values : List String) (value : String) :
    values.filter (· ∉ known ++ [value]) =
      (values.filter (· ∉ known)).filter (!· == value) := by
  rw [List.filter_filter]
  apply List.filter_congr
  intro other _
  by_cases same : other = value <;> simp [same]

/-- Adding strings appends those that are new, each where it stands first. -/
theorem strings_addAll {dictionary after : StringDictionary} {values : List String}
    (indexed : dictionary.table.IsIndexed) (added : dictionary.addAll values = .ok after) :
    after.id = dictionary.id ∧ after.table.IsIndexed ∧
      after.strings =
        dictionary.strings ++ (values.filter (· ∉ dictionary.strings)).eraseDups := by
  induction values generalizing dictionary with
  | nil =>
      injection added with same
      simp [← same, indexed]
  | cons value values ih =>
      unfold addAll at added
      cases step : dictionary.getOrAdd value with
      | error error => simp [step] at added
      | ok result =>
          rw [step] at added
          obtain ⟨sameId, stillIndexed, grown⟩ := strings_getOrAdd indexed step
          obtain ⟨lastId, lastIndexed, last⟩ := ih stillIndexed added
          refine ⟨lastId.trans sameId, lastIndexed, ?_⟩
          rw [last, grown]
          by_cases listed : value ∈ dictionary.strings
          · rw [if_pos listed, List.filter_cons_of_neg (by simpa using listed)]
          · rw [if_neg listed, List.filter_cons_of_pos (by simpa using listed),
              List.eraseDups_cons, filter_notMem_append_singleton, List.append_assoc,
              List.singleton_append]

/-- A dictionary made of a list has the strings of the list without later
duplicates, and finds an identifier for each of them. -/
theorem strings_ofStrings {id : DictionaryId} {strings : List String}
    {dictionary : StringDictionary} (built : ofStrings id strings = .ok dictionary) :
    dictionary.id = id ∧ dictionary.table.IsIndexed ∧
      dictionary.strings = strings.eraseDups := by
  obtain ⟨sameId, indexed, same⟩ := strings_addAll StringTable.isIndexed_empty built
  refine ⟨sameId, indexed, ?_⟩
  rw [same]
  simp [StringDictionary.strings, empty, StringTable.empty]

end StringDictionary

namespace DictionaryCatalog

theorem get?_insert (catalog : DictionaryCatalog) (dictionary : StringDictionary)
    (id : DictionaryId) :
    (catalog.insert dictionary).get? id =
      if dictionary.id = id then some dictionary else catalog.get? id := by
  unfold insert get?
  induction catalog.dictionaries with
  | nil =>
      by_cases same : dictionary.id = id <;> simp [place, same]
  | cons other others ih =>
      simp only [place]
      by_cases sameId : dictionary.id = other.id
      · rw [if_pos sameId]
        by_cases same : dictionary.id = id
        · simp [same]
        · have different : other.id ≠ id := sameId ▸ same
          simp [same, different]
      · rw [if_neg sameId]
        by_cases smaller : dictionary.id < other.id
        · rw [if_pos smaller]
          by_cases same : dictionary.id = id <;> simp [same]
        · rw [if_neg smaller, List.find?_cons, List.find?_cons]
          by_cases here : other.id = id
          · have different : dictionary.id ≠ id := here ▸ sameId
            simp [here, different]
          · simp only [beq_eq_false_iff_ne.mpr here]
            exact ih

/-! ### Adding the entries of a document -/

/-- Adding an entry puts in a dictionary that the catalog did not have, made of the
strings of the entry. -/
theorem addEntries_cons {catalog result : DictionaryCatalog} {key : String}
    {strings : List String} {entries : List (String × List String)}
    (added : catalog.addEntries ((key, strings) :: entries) = .ok result) :
    ∃ stored, keyId? key = some stored.id ∧ catalog.get? stored.id = none ∧
      StringDictionary.ofStrings stored.id strings = .ok stored ∧
      (catalog.insert stored).addEntries entries = .ok result := by
  unfold addEntries at added
  cases named : keyId? key with
  | none => simp [named] at added
  | some id =>
      cases present : catalog.get? id with
      | some other => simp [named, present] at added
      | none =>
          cases built : StringDictionary.ofStrings id strings with
          | error error => simp [named, present, built] at added
          | ok stored =>
              simp only [named, present, built] at added
              obtain ⟨rfl, -⟩ := StringDictionary.strings_ofStrings built
              exact ⟨stored, rfl, present, built, added⟩

theorem get?_addEntries_of_some {catalog result : DictionaryCatalog}
    {entries : List (String × List String)} (added : catalog.addEntries entries = .ok result)
    {id : DictionaryId} {present : StringDictionary} (known : catalog.get? id = some present) :
    result.get? id = some present := by
  induction entries generalizing catalog with
  | nil =>
      injection added with same
      exact same ▸ known
  | cons entry entries ih =>
      obtain ⟨stored, -, absent, -, rest⟩ := addEntries_cons added
      refine ih rest ?_
      have different : stored.id ≠ id := by
        rintro rfl
        rw [absent] at known
        contradiction
      rw [get?_insert, if_neg different]
      exact known

/-- Every entry is found again under the identifier that its key names. -/
theorem get?_addEntries_of_mem {catalog result : DictionaryCatalog}
    {entries : List (String × List String)} (added : catalog.addEntries entries = .ok result)
    {key : String} {strings : List String} (listed : (key, strings) ∈ entries) :
    ∃ stored, keyId? key = some stored.id ∧ result.get? stored.id = some stored ∧
      stored.strings = strings.eraseDups := by
  induction entries generalizing catalog with
  | nil => contradiction
  | cons entry entries ih =>
      obtain ⟨stored, named, -, built, rest⟩ := addEntries_cons added
      rcases List.mem_cons.mp listed with rfl | later
      · have same := (StringDictionary.strings_ofStrings built).2.2
        refine ⟨stored, named, get?_addEntries_of_some rest ?_, same⟩
        rw [get?_insert, if_pos rfl]
      · exact ih rest later

/-- A dictionary is found because it was there or was made of an entry. -/
theorem exists_mem_of_get?_addEntries {catalog result : DictionaryCatalog}
    {entries : List (String × List String)} (added : catalog.addEntries entries = .ok result)
    {id : DictionaryId} {present : StringDictionary} (known : result.get? id = some present) :
    catalog.get? id = some present ∨ ∃ entry ∈ entries, keyId? entry.1 = some id ∧
      StringDictionary.ofStrings id entry.2 = .ok present := by
  induction entries generalizing catalog with
  | nil =>
      injection added with same
      exact .inl (same ▸ known)
  | cons entry entries ih =>
      obtain ⟨stored, named, -, built, rest⟩ := addEntries_cons added
      rcases ih rest with before | ⟨other, listed, names⟩
      · rw [get?_insert] at before
        by_cases same : stored.id = id
        · rw [if_pos same, Option.some.injEq] at before
          subst before same
          exact .inr ⟨entry, List.mem_cons_self, named, built⟩
        · rw [if_neg same] at before
          exact .inl before
      · exact .inr ⟨other, List.mem_cons_of_mem entry listed, names⟩

/-! ### The entries of a document -/

theorem lookup_placeEntry (key : String) (strings : List String)
    (entries : List (String × List String)) (other : String) :
    (placeEntry key strings entries).lookup other =
      if other = key then some strings else entries.lookup other := by
  induction entries with
  | nil => exact AssociationList.lookup_cons other key strings []
  | cons entry entries ih =>
      obtain ⟨present, presentStrings⟩ := entry
      unfold placeEntry
      by_cases same : key = present
      · subst same
        rw [if_pos rfl, AssociationList.lookup_cons, AssociationList.lookup_cons]
        by_cases asked : other = key <;> simp [asked]
      · rw [if_neg same]
        by_cases smaller : key < present
        · rw [if_pos smaller, AssociationList.lookup_cons]
        · rw [if_neg smaller, AssociationList.lookup_cons, AssociationList.lookup_cons, ih]
          by_cases asked : other = key
          · subst asked
            simp [same]
          · simp [asked]

/-- Of several entries with one key the last one stays. -/
theorem lookup_foldl_placeEntry (typed entries : List (String × List String)) (key : String) :
    (typed.foldl (fun entries entry => placeEntry entry.1 entry.2 entries) entries).lookup key =
      (typed.reverse.lookup key).or (entries.lookup key) := by
  induction typed generalizing entries with
  | nil => rfl
  | cons entry typed ih =>
      rw [List.foldl_cons, ih, lookup_placeEntry, List.reverse_cons,
        AssociationList.lookup_append_singleton, Option.or_assoc]
      by_cases same : key = entry.1 <;> simp [same]

/-- The list that a document gives for a dictionary: the value of the last member
whose key names it. -/
def listFor? : Json → DictionaryId → Option (List String)
  | .object members, dictionary =>
      members.reverse.findSome? fun member =>
        if member.1.bind keyId? = some dictionary then
          PlanDocument.list? PlanDocument.text? member.2
        else
          none
  | _, _ => none

/-- An entry with the key and the list of strings of a member. -/
def Denotes (member : Option String × Json) (entry : String × List String) : Prop :=
  member.1 = some entry.1 ∧
    PlanDocument.list? PlanDocument.text? member.2 = some entry.2

/-- The entries of a document are its members, of which those with a repeated key
gave way to the last one. -/
theorem exists_typed_of_entries? {members : List (Option String × Json)}
    {entries : List (String × List String)} (read : entries? (.object members) = some entries) :
    ∃ typed, List.Forall₂ Denotes members typed ∧
      ∀ key, entries.lookup key = typed.reverse.lookup key := by
  unfold entries? at read
  obtain ⟨named, namedMembers, rest⟩ := Option.bind_eq_some_iff.mp read
  obtain ⟨typed, typedMembers, folded⟩ := Option.bind_eq_some_iff.mp rest
  injection folded with folded
  refine ⟨typed, ?_, ?_⟩
  · have keyed := PlanDocument.forall₂_of_mapM namedMembers
    have valued := PlanDocument.forall₂_of_mapM typedMembers
    clear read rest folded namedMembers typedMembers
    induction keyed generalizing typed with
    | nil =>
        cases valued
        exact .nil
    | @cons member entry _ _ hasKey _ ih =>
        cases valued with
        | cons hasValue others =>
            obtain ⟨key, present, rfl⟩ := Option.map_eq_some_iff.mp hasKey
            obtain ⟨strings, texts, rfl⟩ := Option.map_eq_some_iff.mp hasValue
            exact .cons ⟨present, texts⟩ (ih _ others)
  · intro key
    rw [← folded, lookup_foldl_placeEntry, List.lookup_nil, Option.or_none]

theorem listFor?_of_typed {members : List (Option String × Json)}
    {typed : List (String × List String)} (denotes : List.Forall₂ Denotes members typed)
    (dictionary : DictionaryId) :
    listFor? (.object members) dictionary =
      (typed.reverse.find? fun entry => keyId? entry.1 = some dictionary).map Prod.snd := by
  induction denotes with
  | nil => rfl
  | cons head _ ih =>
      obtain ⟨present, texts⟩ := head
      simp only [listFor?] at ih ⊢
      rw [List.reverse_cons, List.findSome?_append, ih, List.reverse_cons, List.find?_append,
        Option.map_or]
      congr 1
      simp only [List.findSome?_singleton, present, texts, Option.bind_some, List.find?_singleton,
        decide_eq_true_eq]
      split <;> rfl

/-- The first entry whose key names a dictionary is the first with that key. -/
theorem lookup_of_find?_named {entries : List (String × List String)} {dictionary : DictionaryId}
    {key : String} {strings : List String}
    (found : entries.find? (fun entry => keyId? entry.1 = some dictionary) = some (key, strings)) :
    entries.lookup key = some strings := by
  obtain ⟨names, before, after, split, earlier⟩ := List.find?_eq_some_iff_append.mp found
  refine List.lookup_eq_some_iff.mpr ⟨before, after, split, fun entry listed => ?_⟩
  have other := earlier entry listed
  rw [decide_eq_true_eq] at names
  rw [bne_iff_ne]
  intro same
  rw [same] at names
  simp [names] at other

/-- A catalog read from a document has a dictionary for exactly the identifiers
for which the document gives a list, with the strings of the list in order and
without later duplicates. -/
theorem get?_of_parse {text : String} {catalog : DictionaryCatalog}
    (accepted : parse text = .ok catalog) :
    ∃ document, Json.parse? text = some document ∧ ∀ dictionary,
      (catalog.get? dictionary).map StringDictionary.strings =
        (listFor? document dictionary).map List.eraseDups := by
  unfold parse at accepted
  cases read : (Json.parse? text).bind entries? with
  | none => simp [read] at accepted
  | some entries =>
      simp only [read] at accepted
      obtain ⟨document, parsed, listed⟩ := Option.bind_eq_some_iff.mp read
      refine ⟨document, parsed, fun dictionary => ?_⟩
      cases document with
      | object members =>
          obtain ⟨typed, denotes, lookups⟩ := exists_typed_of_entries? listed
          rw [listFor?_of_typed denotes]
          cases found : typed.reverse.find? fun entry => keyId? entry.1 = some dictionary with
          | some entry =>
              obtain ⟨key, strings⟩ := entry
              have names := List.find?_some found
              rw [decide_eq_true_eq] at names
              have looked := (lookups key).trans (lookup_of_find?_named found)
              obtain ⟨before, after, split, -⟩ := List.lookup_eq_some_iff.mp looked
              have member : (key, strings) ∈ entries := by simp [split]
              obtain ⟨stored, named, present, same⟩ := get?_addEntries_of_mem accepted member
              have sameId : stored.id = dictionary := Option.some.inj (named.symm.trans names)
              rw [← sameId, present]
              simp [same]
          | none =>
              cases present : catalog.get? dictionary with
              | none => rfl
              | some stored =>
                  -- Its entry would be a member that names the dictionary.
                  rcases exists_mem_of_get?_addEntries accepted present with
                    impossible | ⟨entry, member, names, -⟩
                  · contradiction
                  · have looked : (entries.lookup entry.1).isSome :=
                      List.lookup_isSome_iff.mpr ⟨entry, member, beq_self_eq_true _⟩
                    rw [lookups, List.lookup_isSome_iff] at looked
                    obtain ⟨other, written, same⟩ := looked
                    have unnamed := List.find?_eq_none.mp found other written
                    rw [← eq_of_beq same, decide_eq_true_eq] at unnamed
                    exact absurd names unnamed
      | _ => simp [entries?] at listed

/-- Every dictionary of a catalog read from a document was made of a list. -/
theorem exists_ofStrings_of_parse {text : String} {catalog : DictionaryCatalog}
    (accepted : parse text = .ok catalog) {id : DictionaryId} {stored : StringDictionary}
    (known : catalog.get? id = some stored) :
    ∃ strings, StringDictionary.ofStrings id strings = .ok stored := by
  unfold parse at accepted
  cases read : (Json.parse? text).bind entries? with
  | none => simp [read] at accepted
  | some entries =>
      simp only [read] at accepted
      rcases exists_mem_of_get?_addEntries accepted known with impossible | ⟨entry, -, -, built⟩
      · contradiction
      · exact ⟨entry.2, built⟩

end DictionaryCatalog

end RowFunctions

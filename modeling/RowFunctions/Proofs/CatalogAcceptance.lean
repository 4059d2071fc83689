import RowFunctions.Proofs.ByteOrder
import RowFunctions.Proofs.CatalogDocuments
import RowFunctions.Proofs.DictionaryKeys

/-!
# Which dictionary documents are accepted

A document that gives a list of strings for each of its keys is accepted exactly if
every key names a dictionary and no two keys name the same one, as long as no list has
more different strings than there are identifiers.  A document that is refused is
refused for its first offending key in the order of the keys' bytes.  The order of the
members has no part in this: of members with one key the last counts, and the entries
are put in the order of their keys before any of them is looked at.
-/

namespace RowFunctions

namespace StringDictionary

theorem size_eq_length_strings (dictionary : StringDictionary) :
    dictionary.size = dictionary.strings.length :=
  rfl

theorem getOrAdd_of_mem {dictionary : StringDictionary} {value : String}
    (indexed : dictionary.table.IsIndexed) (listed : value ∈ dictionary.strings) :
    ∃ id, dictionary.getOrAdd value = .ok (id, dictionary) := by
  cases found : dictionary.getId? value with
  | none => exact absurd listed ((indexed value).mp found)
  | some id => exact ⟨id, by simp [getOrAdd, found]⟩

theorem getOrAdd_of_notMem {dictionary : StringDictionary} {value : String}
    (indexed : dictionary.table.IsIndexed) (unlisted : value ∉ dictionary.strings) :
    if dictionary.size < 2 ^ 31 then
      ∃ id after, dictionary.getOrAdd value = .ok (id, after)
    else
      dictionary.getOrAdd value = .error (.noIdsLeft dictionary.id) := by
  have absent : dictionary.getId? value = none := (indexed value).mpr unlisted
  have largest : Int32.maxValue.toInt = 2 ^ 31 - 1 := by decide
  split
  · next room =>
      have fits : (dictionary.size : Int) ≤ Int32.maxValue.toInt := by omega
      exact ⟨Int32.ofNat dictionary.size, _, by simp only [getOrAdd, absent, if_pos fits]; rfl⟩
  · next full =>
      have exhausted : ¬ (dictionary.size : Int) ≤ Int32.maxValue.toInt := by omega
      simp only [getOrAdd, absent, if_neg exhausted]

/-- Strings are added as long as there are identifiers for those that are new. -/
theorem addAll_cases {dictionary : StringDictionary} (values : List String)
    (indexed : dictionary.table.IsIndexed) (bounded : dictionary.size ≤ 2 ^ 31) :
    if dictionary.size + (values.filter (· ∉ dictionary.strings)).eraseDups.length ≤ 2 ^ 31 then
      ∃ after, dictionary.addAll values = .ok after
    else
      dictionary.addAll values = .error (.noIdsLeft dictionary.id) := by
  induction values generalizing dictionary with
  | nil => simpa [addAll] using bounded
  | cons value values ih =>
      by_cases listed : value ∈ dictionary.strings
      · obtain ⟨id, known⟩ := getOrAdd_of_mem indexed listed
        rw [List.filter_cons_of_neg (by simpa using listed), addAll, known]
        exact ih indexed bounded
      · have added := getOrAdd_of_notMem indexed listed
        rw [List.filter_cons_of_pos (by simpa using listed), List.eraseDups_cons,
          List.length_cons, ← filter_notMem_append_singleton, addAll]
        by_cases room : dictionary.size < 2 ^ 31
        · rw [if_pos room] at added
          obtain ⟨id, after, grown⟩ := added
          obtain ⟨sameId, stillIndexed, strings⟩ := strings_getOrAdd indexed grown
          rw [if_neg listed] at strings
          have larger : after.size = dictionary.size + 1 := by
            rw [size_eq_length_strings, strings, List.length_append, List.length_singleton,
              size_eq_length_strings]
          have rest := ih stillIndexed (by omega)
          rw [strings, larger, sameId, Nat.add_assoc, Nat.add_comm 1] at rest
          rw [grown]
          exact rest
        · rw [if_neg room] at added
          rw [if_neg (by omega), added]

/-- A dictionary is made of a list unless the list has more different strings than
there are identifiers. -/
theorem ofStrings_cases (id : DictionaryId) (strings : List String) :
    if strings.eraseDups.length ≤ 2 ^ 31 then
      ∃ dictionary, ofStrings id strings = .ok dictionary
    else
      ofStrings id strings = .error (.noIdsLeft id) := by
  have added := @addAll_cases (empty id) strings StringTable.isIndexed_empty
    (Nat.zero_le (2 ^ 31))
  have allNew : strings.filter (· ∉ (empty id).strings) = strings := by
    apply List.filter_eq_self.mpr
    intro value _
    exact decide_eq_true List.not_mem_nil
  have unused : (empty id).size = 0 := rfl
  rwa [allNew, unused, Nat.zero_add] at added

end StringDictionary

section Ascending

variable {Key : Type} [LT Key] [DecidableEq Key] [DecidableLT Key]

/-- Put a key into its place in an ascending list that may have it already. -/
def insertAscending (key : Key) : List Key → List Key
  | [] => [key]
  | other :: others =>
      if key = other then key :: others
      else if key < other then key :: other :: others
      else other :: insertAscending key others

theorem mem_insertAscending {key other : Key} {keys : List Key} :
    other ∈ insertAscending key keys ↔ other = key ∨ other ∈ keys := by
  induction keys with
  | nil => simp [insertAscending]
  | cons first keys ih =>
      unfold insertAscending
      by_cases same : key = first
      · simp [same]
      · by_cases smaller : key < first
        · simp [same, smaller]
        · rw [if_neg same, if_neg smaller, List.mem_cons, ih, List.mem_cons]
          exact or_left_comm

theorem pairwise_insertAscending
    (transitive : ∀ {first second third : Key}, first < second → second < third → first < third)
    (total : ∀ {first second : Key}, ¬ first < second → first ≠ second → second < first)
    (key : Key) {keys : List Key} (ascending : keys.Pairwise (· < ·)) :
    (insertAscending key keys).Pairwise (· < ·) := by
  induction keys with
  | nil => exact List.pairwise_singleton _ _
  | cons first keys ih =>
      obtain ⟨above, rest⟩ := List.pairwise_cons.mp ascending
      unfold insertAscending
      by_cases same : key = first
      · rw [if_pos same, same]
        exact ascending
      · rw [if_neg same]
        by_cases smaller : key < first
        · rw [if_pos smaller, List.pairwise_cons]
          refine ⟨?_, ascending⟩
          exact List.forall_mem_cons.mpr
            ⟨smaller, fun other later => transitive smaller (above other later)⟩
        · rw [if_neg smaller, List.pairwise_cons]
          refine ⟨?_, ih rest⟩
          intro other member
          rcases mem_insertAscending.mp member with rfl | later
          · exact total smaller same
          · exact above other later

end Ascending

namespace DictionaryCatalog

/-! ### The identifiers of a catalog -/

theorem mem_ids_iff (catalog : DictionaryCatalog) (id : DictionaryId) :
    id ∈ catalog.ids ↔ (catalog.get? id).isSome = true := by
  rw [ids, get?, List.find?_isSome, List.mem_map]
  simp only [beq_iff_eq]

theorem ids_insert (catalog : DictionaryCatalog) (dictionary : StringDictionary) :
    (catalog.insert dictionary).ids = insertAscending dictionary.id catalog.ids := by
  unfold ids insert
  induction catalog.dictionaries with
  | nil => rfl
  | cons other others ih =>
      simp only [place, List.map_cons, insertAscending]
      split
      · rfl
      · split
        · rfl
        · exact congrArg (other.id :: ·) ih

theorem pairwise_ids_addEntries {catalog result : DictionaryCatalog}
    {entries : List (String × List String)} (added : catalog.addEntries entries = .ok result)
    (ascending : catalog.ids.Pairwise (· < ·)) : result.ids.Pairwise (· < ·) := by
  induction entries generalizing catalog with
  | nil =>
      injection added with same
      exact same ▸ ascending
  | cons entry entries ih =>
      obtain ⟨stored, -, -, -, rest⟩ := addEntries_cons added
      apply ih rest
      rw [ids_insert]
      exact pairwise_insertAscending Int32.lt_trans
        (fun notLess different => Int32.lt_of_le_of_ne (Int32.not_lt.mp notLess) different.symm)
        stored.id ascending

/-! ### The entries of a document -/

theorem keys_placeEntry (key : String) (strings : List String)
    (entries : List (String × List String)) :
    (placeEntry key strings entries).map Prod.fst =
      insertAscending key (entries.map Prod.fst) := by
  induction entries with
  | nil => rfl
  | cons entry entries ih =>
      obtain ⟨other, others⟩ := entry
      simp only [placeEntry, List.map_cons, insertAscending]
      split
      · rfl
      · split
        · rfl
        · exact congrArg (other :: ·) ih

theorem pairwise_keys_foldl_placeEntry (typed entries : List (String × List String))
    (ascending : (entries.map Prod.fst).Pairwise (· < ·)) :
    ((typed.foldl (fun entries entry => placeEntry entry.1 entry.2 entries) entries).map
      Prod.fst).Pairwise (· < ·) := by
  induction typed generalizing entries with
  | nil => exact ascending
  | cons entry typed ih =>
      apply ih
      rw [keys_placeEntry]
      exact pairwise_insertAscending lt_trans
        (fun notLess different => lt_of_le_of_ne (not_lt.mp notLess) different.symm)
        entry.1 ascending

/-- Members that denote entries are put in the order of their keys. -/
theorem entries?_of_denotes {members : List (Option String × Json)}
    {typed : List (String × List String)} (denotes : List.Forall₂ Denotes members typed) :
    entries? (.object members) =
      some (typed.foldl (fun entries entry => placeEntry entry.1 entry.2 entries) []) := by
  have read : ∃ named, PlanDocument.namedMembers? members = some named ∧
      named.mapM (fun entry => (PlanDocument.list? PlanDocument.text? entry.2).map
        fun strings => (entry.1, strings)) = some typed := by
    induction denotes with
    | nil => exact ⟨[], rfl, rfl⟩
    | @cons member entry members typed head _ ih =>
        obtain ⟨named, namedMembers, lists⟩ := ih
        refine ⟨(entry.1, member.2) :: named, ?_, ?_⟩
        · unfold PlanDocument.namedMembers? at namedMembers ⊢
          simp [List.mapM_cons, head.1, namedMembers]
        · simp [List.mapM_cons, head.2, lists]
  obtain ⟨named, namedMembers, lists⟩ := read
  simp only [entries?, namedMembers, lists, Option.bind_eq_bind, Option.bind_some, Option.pure_def]

/-- Ascending entries in which every key is found alike are the same. -/
theorem eq_of_lookup_eq {entries others : List (String × List String)}
    (ascending : (entries.map Prod.fst).Pairwise (· < ·))
    (ascendingToo : (others.map Prod.fst).Pairwise (· < ·))
    (same : ∀ key, entries.lookup key = others.lookup key) : entries = others := by
  have distinct := ascending.imp ne_of_lt
  have distinctToo := ascendingToo.imp ne_of_lt
  have permuted : entries.Perm others := by
    rw [List.perm_ext_iff_of_nodup (List.Nodup.of_map _ distinct) (List.Nodup.of_map _ distinctToo)]
    intro entry
    rw [← AssociationList.lookup_eq_some_iff_mem distinct,
      ← AssociationList.lookup_eq_some_iff_mem distinctToo, same]
  exact List.Perm.eq_of_pairwise
    (fun first second _ _ less greater => absurd greater (lt_asymm less))
    (List.pairwise_map.mp ascending) (List.pairwise_map.mp ascendingToo) permuted

/-! ### Offending keys -/

/-- The order of keys by their bytes. -/
def Precedes (smaller key : String) : Prop := utf8Bytes smaller < utf8Bytes key

/-- What is wrong with a key of a document, of which the list for each key is given. -/
inductive Offends (lists : String → Option (List String)) (key : String) : DictionaryError → Prop
  | unnamed (nameless : ∀ id, ¬ Names key id) :
      Offends lists key (.invalidDocument (.notDictionaryId key))
  | repeated {smaller : String} {id : DictionaryId} (written : (lists smaller).isSome = true)
      (before : Precedes smaller key) (namedBefore : Names smaller id) (named : Names key id) :
      Offends lists key (.invalidDocument (.repeatedDictionary id))
  | overflowing {id : DictionaryId} {strings : List String} (named : Names key id)
      (new : ∀ smaller, (lists smaller).isSome = true → Precedes smaller key → ¬ Names smaller id)
      (listed : lists key = some strings) (many : 2 ^ 31 < strings.eraseDups.length) :
      Offends lists key (.noIdsLeft id)

/-- A key offends and none before it does. -/
structure IsFirstOffence (lists : String → Option (List String)) (key : String)
    (error : DictionaryError) : Prop where
  written : (lists key).isSome = true
  offends : Offends lists key error
  first : ∀ smaller, (lists smaller).isSome = true → Precedes smaller key →
    ∀ other, ¬ Offends lists smaller other

/-- Every key of a document names a dictionary, and different keys name different ones. -/
structure IsWellKeyed (lists : String → Option (List String)) : Prop where
  named : ∀ key, (lists key).isSome = true → ∃ id, Names key id
  different : ∀ key other id, (lists key).isSome = true → (lists other).isSome = true →
    Names key id → Names other id → key = other

/-- No key offends exactly if the keys are in order and no list overflows. -/
theorem not_offends_iff (lists : String → Option (List String)) :
    (∀ key, (lists key).isSome = true → ∀ error, ¬ Offends lists key error) ↔
      IsWellKeyed lists ∧
        ∀ key strings, lists key = some strings → strings.eraseDups.length ≤ 2 ^ 31 := by
  constructor
  · intro fine
    have named : ∀ key, (lists key).isSome = true → ∃ id, Names key id := by
      intro key written
      by_contra nameless
      exact fine key written _ (.unnamed (not_exists.mp nameless))
    have unrepeated : ∀ key other id, (lists key).isSome = true → (lists other).isSome = true →
        Names key id → Names other id → ¬ Precedes other key :=
      fun key other id written writtenToo one two before =>
        fine key written _ (.repeated writtenToo before two one)
    refine ⟨⟨named, ?_⟩, ?_⟩
    · intro key other id written writtenToo one two
      have notBefore := unrepeated key other id written writtenToo one two
      have notAfter := unrepeated other key id writtenToo written two one
      rw [Precedes, ← lt_iff_utf8Bytes_lt, not_lt] at notBefore notAfter
      exact le_antisymm notBefore notAfter
    · intro key strings listed
      have written : (lists key).isSome = true := by rw [listed]; rfl
      obtain ⟨id, names⟩ := named key written
      by_contra many
      refine fine key written _ (.overflowing names ?_ listed (not_le.mp many))
      intro smaller writtenToo before namesToo
      exact unrepeated key smaller id written writtenToo names namesToo before
  · rintro ⟨keyed, fits⟩ key written error offends
    cases offends with
    | unnamed nameless =>
        obtain ⟨id, names⟩ := keyed.named key written
        exact nameless id names
    | repeated writtenToo before namedBefore named =>
        obtain rfl := keyed.different _ _ _ written writtenToo named namedBefore
        exact List.lt_irrefl _ before
    | overflowing named new listed many => exact absurd (fits key _ listed) (not_le.mpr many)

/-- A catalog holds the earlier entries of a document, none of which offends, and
others are to be added. -/
structure HasAdded (lists : String → Option (List String)) (catalog : DictionaryCatalog)
    (earlier entries : List (String × List String)) : Prop where
  ascending : ((earlier ++ entries).map Prod.fst).Pairwise (· < ·)
  given : ∀ key, lists key = (earlier ++ entries).lookup key
  known : ∀ id, (catalog.get? id).isSome = true ↔ ∃ entry ∈ earlier, Names entry.1 id
  fine : ∀ entry ∈ earlier, ∀ error, ¬ Offends lists entry.1 error

namespace HasAdded

variable {lists : String → Option (List String)} {catalog : DictionaryCatalog}
  {earlier entries : List (String × List String)} {key : String} {strings : List String}

theorem not_offends (added : HasAdded lists catalog earlier []) :
    ∀ key, (lists key).isSome = true → ∀ error, ¬ Offends lists key error := by
  intro key written
  rw [added.given, List.append_nil, AssociationList.isSome_lookup_iff_mem_keys] at written
  obtain ⟨entry, listed, rfl⟩ := List.mem_map.mp written
  exact added.fine entry listed

variable (added : HasAdded lists catalog earlier ((key, strings) :: entries))

include added

theorem listed : lists key = some strings := by
  rw [added.given, AssociationList.lookup_eq_some_iff_mem (added.ascending.imp ne_of_lt)]
  simp

theorem written : (lists key).isSome = true := by
  rw [added.listed]
  rfl

/-- The keys before the next one are those of the earlier entries. -/
theorem exists_mem_of_precedes {smaller : String} (written : (lists smaller).isSome = true)
    (before : Precedes smaller key) : ∃ entry ∈ earlier, entry.1 = smaller := by
  have ascending := added.ascending
  rw [Precedes, ← lt_iff_utf8Bytes_lt] at before
  rw [added.given, AssociationList.isSome_lookup_iff_mem_keys, List.map_append, List.mem_append,
    List.map_cons, List.mem_cons] at written
  rw [List.map_append, List.pairwise_append, List.map_cons, List.pairwise_cons] at ascending
  rcases written with done | rfl | later
  · exact List.mem_map.mp done
  · exact absurd before (lt_irrefl _)
  · exact absurd before (lt_asymm (ascending.2.1.1 smaller later))

theorem written_of_mem {entry : String × List String} (done : entry ∈ earlier) :
    (lists entry.1).isSome = true := by
  rw [added.given, AssociationList.isSome_lookup_iff_mem_keys, List.map_append]
  exact List.mem_append_left _ (List.mem_map_of_mem done)

theorem precedes_of_mem {entry : String × List String} (done : entry ∈ earlier) :
    Precedes entry.1 key := by
  have ascending := added.ascending
  rw [List.map_append, List.pairwise_append] at ascending
  rw [Precedes, ← lt_iff_utf8Bytes_lt]
  exact ascending.2.2 _ (List.mem_map_of_mem done) key (by simp)

/-- If the next key offends, it is the first to do so. -/
theorem isFirstOffence {error : DictionaryError} (offends : Offends lists key error) :
    IsFirstOffence lists key error := by
  refine ⟨added.written, offends, fun smaller written before => ?_⟩
  obtain ⟨entry, done, rfl⟩ := added.exists_mem_of_precedes written before
  exact added.fine entry done

/-- A dictionary that the catalog does not have is named by no key before. -/
theorem unnamed_of_absent {id : DictionaryId} (absent : catalog.get? id = none)
    {smaller : String} (written : (lists smaller).isSome = true)
    (before : Precedes smaller key) : ¬ Names smaller id := by
  intro names
  obtain ⟨entry, done, rfl⟩ := added.exists_mem_of_precedes written before
  have found := (added.known id).mpr ⟨entry, done, names⟩
  rw [absent] at found
  contradiction

/-- The next entry is added if its dictionary is new and was made of its strings. -/
theorem next {stored : StringDictionary} (names : Names key stored.id)
    (absent : catalog.get? stored.id = none) (fits : strings.eraseDups.length ≤ 2 ^ 31) :
    HasAdded lists (catalog.insert stored) (earlier ++ [(key, strings)]) entries := by
  have ascending := added.ascending
  have given := added.given
  rw [← List.singleton_append, ← List.append_assoc] at ascending given
  refine ⟨ascending, given, ?_, ?_⟩
  · intro id
    rw [get?_insert]
    by_cases same : stored.id = id
    · simp [← same, names]
    · have otherwise : ¬ Names key id := fun namesToo => same (names.unique namesToo)
      simp [same, added.known, otherwise]
  · intro entry member error offends
    rcases List.mem_append.mp member with done | last
    · exact added.fine entry done error offends
    · obtain rfl := List.mem_singleton.mp last
      cases offends with
      | unnamed nameless => exact nameless stored.id names
      | repeated written before namedBefore namesToo =>
          exact added.unnamed_of_absent absent written before (names.unique namesToo ▸ namedBefore)
      | overflowing namesToo new listed many =>
          obtain rfl := Option.some.inj (added.listed.symm.trans listed)
          exact absurd fits (not_le.mpr many)

end HasAdded

/-- Entries are added in the order of their keys up to the first that offends. -/
theorem addEntries_cases {lists : String → Option (List String)} {catalog : DictionaryCatalog}
    {earlier entries : List (String × List String)}
    (added : HasAdded lists catalog earlier entries) :
    ((∃ result, catalog.addEntries entries = .ok result) ∧
        ∀ key, (lists key).isSome = true → ∀ error, ¬ Offends lists key error) ∨
      ∃ key error, IsFirstOffence lists key error ∧ catalog.addEntries entries = .error error := by
  induction entries generalizing earlier catalog with
  | nil => exact .inl ⟨⟨catalog, rfl⟩, added.not_offends⟩
  | cons entry entries ih =>
      obtain ⟨key, strings⟩ := entry
      cases named : keyId? key with
      | none =>
          have nameless := (keyId?_eq_none_iff key).mp named
          refine .inr ⟨key, _, added.isFirstOffence (.unnamed nameless), ?_⟩
          simp only [addEntries, named]
      | some id =>
          have names : Names key id := (keyId?_eq_some_iff key id).mp named
          cases present : catalog.get? id with
          | some other =>
              obtain ⟨entry, done, namesToo⟩ := (added.known id).mp (by rw [present]; rfl)
              have offends : Offends lists key (.invalidDocument (.repeatedDictionary id)) :=
                .repeated (added.written_of_mem done) (added.precedes_of_mem done) namesToo names
              refine .inr ⟨key, _, added.isFirstOffence offends, ?_⟩
              simp only [addEntries, named, present]
          | none =>
              have made := StringDictionary.ofStrings_cases id strings
              split at made
              · next fits =>
                  obtain ⟨stored, built⟩ := made
                  obtain rfl := (StringDictionary.strings_ofStrings built).1
                  have rest := ih (added.next names present fits)
                  simpa only [addEntries, named, present, built] using rest
              · next many =>
                  have offends : Offends lists key (.noIdsLeft id) :=
                    .overflowing names (fun _ => added.unnamed_of_absent present) added.listed
                      (not_le.mp many)
                  refine .inr ⟨key, _, added.isFirstOffence offends, ?_⟩
                  simp only [addEntries, named, present, made]

/-! ### Documents -/

/-- The list that a document gives for a key: that of its last entry with the key. -/
def listUnder (typed : List (String × List String)) (key : String) : Option (List String) :=
  typed.reverse.lookup key

section Documents

variable {text : String} {members : List (Option String × Json)}
  {typed : List (String × List String)}

/-- The entries of a document are added in the order of their keys. -/
theorem exists_entries_of_denotes (read : Json.parse? text = some (.object members))
    (denotes : List.Forall₂ Denotes members typed) :
    ∃ entries, parse text = empty.addEntries entries ∧
      (entries.map Prod.fst).Pairwise (· < ·) ∧
      ∀ key, listUnder typed key = entries.lookup key := by
  refine ⟨typed.foldl (fun entries entry => placeEntry entry.1 entry.2 entries) [], ?_, ?_, ?_⟩
  · simp only [parse, read, Option.bind_some, entries?_of_denotes denotes]
  · exact pairwise_keys_foldl_placeEntry typed [] List.Pairwise.nil
  · intro key
    rw [lookup_foldl_placeEntry, List.lookup_nil, Option.or_none, listUnder]

/-- A document is accepted if no key offends, and else refused for the first that does. -/
theorem parse_cases (read : Json.parse? text = some (.object members))
    (denotes : List.Forall₂ Denotes members typed) :
    ((∃ catalog, parse text = .ok catalog) ∧
        ∀ key, (listUnder typed key).isSome = true →
          ∀ error, ¬ Offends (listUnder typed) key error) ∨
      ∃ key error, IsFirstOffence (listUnder typed) key error ∧ parse text = .error error := by
  obtain ⟨entries, parsed, ascending, given⟩ := exists_entries_of_denotes read denotes
  rw [parsed]
  have nothing : HasAdded (listUnder typed) empty [] entries :=
    ⟨ascending, given, by simp [empty, get?], by simp⟩
  exact addEntries_cases nothing

/-- An accepted document gives the identifiers of its keys their lists. -/
theorem catalog_of_parse (read : Json.parse? text = some (.object members))
    (denotes : List.Forall₂ Denotes members typed) {catalog : DictionaryCatalog}
    (accepted : parse text = .ok catalog) :
    catalog.ids.Pairwise (· < ·) ∧
      (∀ id, id ∈ catalog.ids ↔ ∃ key, (listUnder typed key).isSome = true ∧ Names key id) ∧
      ∀ key id strings, listUnder typed key = some strings → Names key id →
        ∃ stored, catalog.get id = .ok stored ∧ stored.strings = strings.eraseDups := by
  obtain ⟨entries, parsed, ascending, given⟩ := exists_entries_of_denotes read denotes
  have distinct := ascending.imp ne_of_lt
  have added : empty.addEntries entries = .ok catalog := parsed.symm.trans accepted
  have found : ∀ key id strings, listUnder typed key = some strings → Names key id →
      ∃ stored, catalog.get? id = some stored ∧ stored.strings = strings.eraseDups := by
    intro key id strings listed names
    rw [given, AssociationList.lookup_eq_some_iff_mem distinct] at listed
    obtain ⟨stored, named, present, same⟩ := get?_addEntries_of_mem added listed
    obtain rfl := ((keyId?_eq_some_iff key _).mp named).unique names
    exact ⟨stored, present, same⟩
  refine ⟨pairwise_ids_addEntries added List.Pairwise.nil, fun id => ?_, ?_⟩
  · rw [mem_ids_iff]
    constructor
    · intro present
      obtain ⟨stored, known⟩ := Option.isSome_iff_exists.mp present
      rcases exists_mem_of_get?_addEntries added known with impossible | ⟨entry, listed, named, -⟩
      · contradiction
      · refine ⟨entry.1, ?_, (keyId?_eq_some_iff entry.1 id).mp named⟩
        rw [given, AssociationList.isSome_lookup_iff_mem_keys]
        exact List.mem_map_of_mem listed
    · rintro ⟨key, written, names⟩
      obtain ⟨strings, listed⟩ := Option.isSome_iff_exists.mp written
      obtain ⟨stored, present, -⟩ := found key id strings listed names
      rw [present]
      rfl
  · intro key id strings listed names
    obtain ⟨stored, present, same⟩ := found key id strings listed names
    exact ⟨stored, by rw [get, present], same⟩

/-- The order of members with different keys makes no difference. -/
theorem parse_eq_of_perm (read : Json.parse? text = some (.object members))
    (denotes : List.Forall₂ Denotes members typed) (distinct : (members.map Prod.fst).Nodup)
    {other : String} {permuted : List (Option String × Json)}
    (readToo : Json.parse? other = some (.object permuted)) (same : members.Perm permuted) :
    parse other = parse text := by
  obtain ⟨typedToo, denotesToo, permutedTyped⟩ := List.perm_comp_forall₂ same.symm denotes
  have keys : members.map Prod.fst = (typed.map Prod.fst).map some := by
    clear read distinct same denotesToo permutedTyped
    induction denotes with
    | nil => rfl
    | cons head _ ih => simp [head.1, ih]
  have typedKeys : (typed.reverse.map Prod.fst).Nodup := by
    rw [keys] at distinct
    rw [List.map_reverse, List.nodup_reverse]
    exact List.Nodup.of_map _ distinct
  have reversed : typed.reverse.Perm typedToo.reverse :=
    (List.reverse_perm typed).trans (permutedTyped.symm.trans (List.reverse_perm typedToo).symm)
  obtain ⟨entries, parsed, ascending, given⟩ := exists_entries_of_denotes read denotes
  obtain ⟨others, parsedToo, ascendingToo, givenToo⟩ :=
    exists_entries_of_denotes readToo denotesToo
  have sameEntries : others = entries := by
    apply eq_of_lookup_eq ascendingToo ascending
    intro key
    rw [← given, ← givenToo, listUnder, listUnder,
      AssociationList.lookup_eq_of_perm typedKeys reversed]
  rw [parsed, parsedToo, sameEntries]

/-- A document of lists of strings is accepted exactly if each key names a dictionary
and different keys name different ones, provided that no list has more different
strings than there are identifiers.  The catalog then has exactly the dictionaries
named, in ascending order, each with the last list under its key without later
duplicates.  Otherwise the failure is about the first offending key in the order of
bytes: one that names nothing, or one that names what a key before it names, or one
whose list overflows.  The order of members with different keys changes neither. -/
theorem well_keyed_documents_are_accepted (read : Json.parse? text = some (.object members))
    (denotes : List.Forall₂ Denotes members typed) :
    ((∃ catalog, parse text = .ok catalog) ↔ IsWellKeyed (listUnder typed) ∧
      ∀ key strings, listUnder typed key = some strings → strings.eraseDups.length ≤ 2 ^ 31) ∧
    (∀ catalog, parse text = .ok catalog →
      catalog.ids.Pairwise (· < ·) ∧
      (∀ id, id ∈ catalog.ids ↔ ∃ key, (listUnder typed key).isSome = true ∧ Names key id) ∧
      ∀ key id strings, listUnder typed key = some strings → Names key id →
        ∃ stored, catalog.get id = .ok stored ∧ stored.strings = strings.eraseDups) ∧
    (∀ error, parse text = .error error → ∃ key, IsFirstOffence (listUnder typed) key error) ∧
    ((members.map Prod.fst).Nodup → ∀ other permuted, Json.parse? other = some (.object permuted) →
      members.Perm permuted → parse other = parse text) := by
  have cases := parse_cases read denotes
  refine ⟨?_, fun catalog accepted => catalog_of_parse read denotes accepted, ?_,
    fun distinct other permuted readToo same => parse_eq_of_perm read denotes distinct readToo same⟩
  · rw [← not_offends_iff]
    constructor
    · rintro ⟨catalog, accepted⟩
      rcases cases with ⟨-, fine⟩ | ⟨key, error, -, refused⟩
      · exact fine
      · rw [accepted] at refused
        contradiction
    · intro fine
      rcases cases with ⟨accepted, -⟩ | ⟨key, error, offence, -⟩
      · exact accepted
      · exact absurd offence.offends (fine key offence.written error)
  · intro error refused
    rcases cases with ⟨⟨catalog, accepted⟩, -⟩ | ⟨key, other, offence, refusedToo⟩
    · rw [accepted] at refused
      contradiction
    · obtain rfl := Except.error.inj (refused.symm.trans refusedToo)
      exact ⟨key, offence⟩

end Documents

/-- Of two members with one key the last counts, and the sign, the zero and the blank
before a number are no part of it; in another document two spellings of one number
clash, but the first key that is no number comes before them. -/
theorem well_keyed_documents_are_accepted_of_spellings :
    let text := "\x7b\"10\": [\"a\"], \"\\u2003-02\": [\"b\", \"a\", \"b\"], \"10\": [\"c\"]\x7d"
    let other := "\x7b\"\\u2003-0\": [], \"z\": [], \"+0\": []\x7d"
    (∃ catalog, parse text = .ok catalog ∧ catalog.ids.Pairwise (· < ·) ∧
      (∃ stored, catalog.get (-2) = .ok stored ∧ stored.strings = ["b", "a"]) ∧
      ∃ stored, catalog.get 10 = .ok stored ∧ stored.strings = ["c"]) ∧
    parse other = .error (.invalidDocument (.notDictionaryId "z")) ∧
      ∃ key, IsFirstOffence (listUnder [("\u2003-0", []), ("z", []), ("+0", [])]) key
        (.invalidDocument (.notDictionaryId "z")) := by
  intro text other
  have read : Json.parse? text = some (.object [(some "10", .array [.string (some "a")]),
      (some "\u2003-02", .array [.string (some "b"), .string (some "a"), .string (some "b")]),
      (some "10", .array [.string (some "c")])]) := by cbv
  have readOther : Json.parse? other = some (.object [(some "\u2003-0", .array []),
      (some "z", .array []), (some "+0", .array [])]) := by cbv
  have denotes : List.Forall₂ Denotes [(some "10", .array [.string (some "a")]),
      (some "\u2003-02", .array [.string (some "b"), .string (some "a"), .string (some "b")]),
      (some "10", .array [.string (some "c")])]
      [("10", ["a"]), ("\u2003-02", ["b", "a", "b"]), ("10", ["c"])] :=
    .cons ⟨rfl, rfl⟩ (.cons ⟨rfl, rfl⟩ (.cons ⟨rfl, rfl⟩ .nil))
  have denotesOther : List.Forall₂ Denotes [(some "\u2003-0", .array []), (some "z", .array []),
      (some "+0", .array [])] [("\u2003-0", []), ("z", []), ("+0", [])] :=
    .cons ⟨rfl, rfl⟩ (.cons ⟨rfl, rfl⟩ (.cons ⟨rfl, rfl⟩ .nil))
  have refused : parse other = .error (.invalidDocument (.notDictionaryId "z")) := by
    decide +kernel
  have accepted := well_keyed_documents_are_accepted read denotes
  let catalog : DictionaryCatalog := ⟨[⟨-2, ⟨["b", "a"], [("a", 1), ("b", 0)]⟩⟩,
    ⟨10, ⟨["c"], [("c", 0)]⟩⟩]⟩
  have parsed : parse text = .ok catalog := by decide +kernel
  have names : Names "\u2003-02" (-2) ∧ Names "10" 10 := by
    rw [← keyId?_eq_some_iff, ← keyId?_eq_some_iff]
    decide +kernel
  obtain ⟨ascending, -, found⟩ := accepted.2.1 catalog parsed
  have first := found "\u2003-02" (-2) ["b", "a", "b"] (by decide +kernel) names.1
  have second := found "10" 10 ["c"] (by decide +kernel) names.2
  have dropped : ["b", "a", "b"].eraseDups = ["b", "a"] ∧ ["c"].eraseDups = ["c"] := by
    decide +kernel
  rw [dropped.1] at first
  rw [dropped.2] at second
  exact ⟨⟨catalog, parsed, ascending, first, second⟩, refused,
    (well_keyed_documents_are_accepted readOther denotesOther).2.2.1 _ refused⟩

end DictionaryCatalog

end RowFunctions

import RowFunctions.Proofs.CallSiteIndexing

/-!
# The index as a partition of the calls

The index of a plan sorts its well-formed top-level calls into lists, one for each name
key.  While it is built, a key gets a list with its first call and never a second one, so
the keys stay distinct and are those of the calls so far.  Together with what a look-up
finds, this says where every call stands: in the list of its key, once, in plan order, and
in no other list.  Counting calls by their keys then counts each of them once.
-/

namespace RowFunctions

namespace Plan

/-- The top-level call at a position, if the target there is a call. -/
def callAt? (plan : Plan) (position : Nat) : Option FunctionCall :=
  (plan.targets[position]?).bind Expression.call?

/-- The keys of the well-formed top-level calls, in plan order and with repetitions. -/
def nameKeys (plan : Plan) : List NameKey :=
  plan.calls.filterMap fun call => NameKey.of? call.name

theorem mem_calls_of_callAt? {plan : Plan} {position : Nat} {call : FunctionCall}
    (stands : plan.callAt? position = some call) : call ∈ plan.calls := by
  rw [← callSites_map_snd]
  exact List.mem_map.mpr ⟨_, (plan.mem_callSites_iff position call).mpr stands, rfl⟩

/-- A call site that is earlier in the plan than another one is listed before it. -/
theorem mem_passed_of_lt {plan : Plan} {passed rest : List (Nat × FunctionCall)}
    {site other : Nat × FunctionCall} (split : plan.callSites = passed ++ site :: rest)
    (present : other ∈ plan.callSites) (before : other.1 < site.1) : other ∈ passed := by
  have ordered := plan.callSites_pairwise
  rw [split] at ordered present
  have later := (List.pairwise_cons.mp (List.pairwise_append.mp ordered).2.1).1
  rcases List.mem_append.mp present with among | after
  · exact among
  · -- From the site on, no position is smaller than its own.
    rcases List.mem_cons.mp after with rfl | further
    · exact absurd before (Nat.lt_irrefl _)
    · exact absurd before (Nat.lt_asymm (later _ further))

theorem mem_nameKeys_iff (plan : Plan) (key : NameKey) :
    key ∈ plan.nameKeys ↔ ∃ site ∈ plan.callSites, CallSiteIndex.hasKey key site = true := by
  simp only [nameKeys, ← callSites_map_snd, List.mem_filterMap, List.mem_map,
    CallSiteIndex.hasKey, beq_iff_eq]
  constructor
  · rintro ⟨_, ⟨site, member, rfl⟩, keyed⟩
    exact ⟨site, member, keyed⟩
  · rintro ⟨site, member, keyed⟩
    exact ⟨_, ⟨site, member, rfl⟩, keyed⟩

/-- A key is repeated once for each call site that has it. -/
theorem count_nameKeys (plan : Plan) (key : NameKey) :
    plan.nameKeys.count key = (plan.callSites.filter (CallSiteIndex.hasKey key)).length := by
  rw [nameKeys, List.count_filterMap, ← callSites_map_snd, List.countP_map,
    List.countP_eq_length_filter]
  rfl

theorem length_nameKeys (plan : Plan) :
    plan.nameKeys.length = plan.calls.countP fun call => ¬ NameKey.IsMalformed call.name := by
  rw [nameKeys, List.length_filterMap_eq_countP]
  apply List.countP_congr
  intro call _
  rw [decide_eq_true_eq, ← NameKey.of?_eq_none_iff, Option.isSome_iff_ne_none]

end Plan

namespace CallSiteIndex

def keys (index : CallSiteIndex) : List NameKey := index.positions.map Prod.fst

/-! ### The keys while the index is built -/

theorem keys_addPosition (key : NameKey) (position : Nat) (entries : List (NameKey × List Nat)) :
    (addPosition key position entries).map Prod.fst =
      if key ∈ entries.map Prod.fst then entries.map Prod.fst
      else entries.map Prod.fst ++ [key] := by
  induction entries with
  | nil => rfl
  | cons entry entries ih =>
      obtain ⟨present, positions⟩ := entry
      simp only [addPosition]
      by_cases found : present = key
      · simp [found]
      · rw [if_neg found, List.map_cons, ih]
        by_cases later : key ∈ entries.map Prod.fst
        · simp [later]
        · simp [later, Ne.symm found]

theorem keys_addCallSite_of_some {site : Nat × FunctionCall} {key : NameKey}
    (keyed : NameKey.of? site.2.name = some key) (index : CallSiteIndex) :
    (index.addCallSite site).keys =
      if key ∈ index.keys then index.keys else index.keys ++ [key] := by
  simp only [addCallSite, NameKey.of_of?_some keyed, keys]
  exact keys_addPosition key site.1 index.positions

theorem keys_addCallSite_of_none {site : Nat × FunctionCall}
    (keyless : NameKey.of? site.2.name = none) (index : CallSiteIndex) :
    (index.addCallSite site).keys = index.keys := by
  simp only [addCallSite, NameKey.of_of?_none keyless, keys]

/-- Adding a call site keeps the keys distinct. -/
theorem nodup_keys_addCallSite {index : CallSiteIndex} (distinct : index.keys.Nodup)
    (site : Nat × FunctionCall) : (index.addCallSite site).keys.Nodup := by
  cases keyed : NameKey.of? site.2.name with
  | none =>
      rw [keys_addCallSite_of_none keyed]
      exact distinct
  | some key =>
      rw [keys_addCallSite_of_some keyed]
      by_cases present : key ∈ index.keys
      · rw [if_pos present]
        exact distinct
      · rw [if_neg present, ← List.concat_eq_append]
        exact distinct.concat present

theorem mem_keys_addCallSite (index : CallSiteIndex) (site : Nat × FunctionCall)
    (key : NameKey) :
    key ∈ (index.addCallSite site).keys ↔ key ∈ index.keys ∨ hasKey key site = true := by
  unfold hasKey
  cases keyed : NameKey.of? site.2.name with
  | none =>
      rw [keys_addCallSite_of_none keyed]
      simp
  | some siteKey =>
      rw [keys_addCallSite_of_some keyed]
      by_cases present : siteKey ∈ index.keys
      · rw [if_pos present]
        simp only [beq_iff_eq, Option.some.injEq]
        exact ⟨.inl, fun either => either.elim id fun same => same ▸ present⟩
      · rw [if_neg present, List.mem_append, List.mem_singleton, beq_iff_eq, Option.some.injEq,
          eq_comm (a := key)]

theorem nodup_keys_foldl_addCallSite (sites : List (Nat × FunctionCall)) {index : CallSiteIndex}
    (distinct : index.keys.Nodup) : (sites.foldl addCallSite index).keys.Nodup := by
  induction sites generalizing index with
  | nil => exact distinct
  | cons site sites ih => exact ih (nodup_keys_addCallSite distinct site)

theorem mem_keys_foldl_addCallSite (sites : List (Nat × FunctionCall)) (index : CallSiteIndex)
    (key : NameKey) :
    key ∈ (sites.foldl addCallSite index).keys ↔
      key ∈ index.keys ∨ ∃ site ∈ sites, hasKey key site = true := by
  induction sites generalizing index with
  | nil => simp
  | cons site sites ih =>
      rw [List.foldl_cons, ih, mem_keys_addCallSite, or_assoc]
      simp only [List.mem_cons, exists_eq_or_imp]

theorem nodup_keys_ofPlan (plan : Plan) : (ofPlan plan).keys.Nodup :=
  nodup_keys_foldl_addCallSite plan.callSites List.nodup_nil

/-- The keys of an index are those of the well-formed calls. -/
theorem mem_keys_ofPlan (plan : Plan) (key : NameKey) :
    key ∈ (ofPlan plan).keys ↔ key ∈ plan.nameKeys := by
  rw [ofPlan, mem_keys_foldl_addCallSite, plan.mem_nameKeys_iff]
  simp [keys]

theorem size_ofPlan (plan : Plan) : (ofPlan plan).size = plan.nameKeys.toFinset.card := by
  have same : (ofPlan plan).keys.toFinset = plan.nameKeys.toFinset := by
    ext key
    rw [List.mem_toFinset, List.mem_toFinset, mem_keys_ofPlan]
  rw [← same, List.toFinset_card_of_nodup (nodup_keys_ofPlan plan), keys, List.length_map, size]

/-- A plan without well-formed calls has an empty index. -/
theorem isEmpty_ofPlan_iff (plan : Plan) :
    (ofPlan plan).isEmpty = true ↔ ∀ call ∈ plan.calls, NameKey.IsMalformed call.name := by
  have keyless : (ofPlan plan).keys = [] ↔ plan.nameKeys = [] := by
    simp only [List.eq_nil_iff_forall_not_mem, mem_keys_ofPlan]
  rw [isEmpty, List.isEmpty_iff, ← List.map_eq_nil_iff (f := Prod.fst), ← keys, keyless,
    Plan.nameKeys, List.filterMap_eq_nil_iff]
  simp only [NameKey.of?_eq_none_iff]

/-! ### Where the calls stand -/

theorem positionsOf_ofPlan_pairwise (plan : Plan) (key : NameKey) :
    ((ofPlan plan).positionsOf key).Pairwise fun earlier later => earlier < later := by
  rw [positionsOf_ofPlan, List.pairwise_map]
  exact plan.callSites_pairwise.filter _

/-- What stands in an index is the list of a key of the plan, as a look-up finds it. -/
theorem mem_positions_ofPlan_iff (plan : Plan) (key : NameKey) (positions : List Nat) :
    (key, positions) ∈ (ofPlan plan).positions ↔
      key ∈ plan.nameKeys ∧ positions = (ofPlan plan).positionsOf key := by
  rw [← mem_keys_ofPlan, ← AssociationList.lookup_eq_some_iff_mem (nodup_keys_ofPlan plan), keys,
    ← AssociationList.isSome_lookup_iff_mem_keys, positionsOf]
  cases (ofPlan plan).positions.lookup key with
  | none => simp
  | some found => simp [eq_comm]

theorem exists_callAt?_of_mem_positionsOf {plan : Plan} {key : NameKey} {position : Nat}
    (listed : position ∈ (ofPlan plan).positionsOf key) :
    ∃ call, plan.callAt? position = some call ∧ NameKey.of? call.name = some key := by
  rw [positionsOf_ofPlan] at listed
  obtain ⟨⟨_, call⟩, sought, rfl⟩ := List.mem_map.mp listed
  obtain ⟨site, keyed⟩ := List.mem_filter.mp sought
  exact ⟨call, (plan.mem_callSites_iff _ call).mp site, beq_iff_eq.mp keyed⟩

/-- A call stands in the list of its own key and in no other. -/
theorem mem_positionsOf_ofPlan_iff {plan : Plan} {position : Nat} {call : FunctionCall}
    (stands : plan.callAt? position = some call) (key : NameKey) :
    position ∈ (ofPlan plan).positionsOf key ↔ NameKey.of? call.name = some key := by
  constructor
  · intro listed
    obtain ⟨other, found, keyed⟩ := exists_callAt?_of_mem_positionsOf listed
    cases found.symm.trans stands
    exact keyed
  · intro keyed
    rw [positionsOf_ofPlan, List.mem_map]
    refine ⟨(position, call), List.mem_filter.mpr ⟨?_, beq_iff_eq.mpr keyed⟩, rfl⟩
    exact (plan.mem_callSites_iff position call).mpr stands

/-- The index of a plan sorts its well-formed top-level calls by key and remembers the first
malformed one. -/
structure Partitions (index : CallSiteIndex) (plan : Plan) : Prop where
  /-- No key has two lists. -/
  distinct : (index.positions.map Prod.fst).Nodup
  /-- The positions in a list strictly increase. -/
  increasing : ∀ key positions, (key, positions) ∈ index.positions →
    positions.Pairwise fun earlier later => earlier < later
  /-- A position in the list of a key is that of a top-level call with the key. -/
  holdsCalls : ∀ key positions, (key, positions) ∈ index.positions → ∀ position ∈ positions,
    ∃ call, plan.callAt? position = some call ∧ NameKey.of? call.name = some key
  /-- A look-up of a key finds a call for every position in its list. -/
  findsAll : ∀ key positions, (key, positions) ∈ index.positions →
    (index.candidates key).map Prod.fst = positions
  /-- A well-formed top-level call stands in one list, and there once. -/
  listsOnce : ∀ position call, plan.callAt? position = some call →
    ¬ NameKey.IsMalformed call.name →
      ∃ entry ∈ index.positions, entry.2.count position = 1 ∧
        ∀ other ∈ index.positions, position ∈ other.2 → other = entry
  /-- A remembered call is malformed, and no top-level call before it is. -/
  remembersFirst : ∀ position error, index.malformed = some (position, error) →
    ∃ call, plan.callAt? position = some call ∧ NameKey.IsMalformed call.name ∧
      error = .emptyFunctionName call.name ∧
      ∀ earlier < position, ∀ other, plan.callAt? earlier = some other →
        ¬ NameKey.IsMalformed other.name
  /-- If nothing is remembered, no top-level call is malformed. -/
  forgetsNone : index.malformed = none → ∀ call ∈ plan.calls, ¬ NameKey.IsMalformed call.name

theorem listsOnce_ofPlan {plan : Plan} {position : Nat} {call : FunctionCall}
    (stands : plan.callAt? position = some call) (wellFormed : ¬ NameKey.IsMalformed call.name) :
    ∃ entry ∈ (ofPlan plan).positions, entry.2.count position = 1 ∧
      ∀ other ∈ (ofPlan plan).positions, position ∈ other.2 → other = entry := by
  obtain ⟨key, keyed⟩ := NameKey.exists_of?_eq_some wellFormed
  have known : key ∈ plan.nameKeys :=
    List.mem_filterMap.mpr ⟨call, Plan.mem_calls_of_callAt? stands, keyed⟩
  have listed := (mem_positionsOf_ofPlan_iff stands key).mpr keyed
  have distinct : ((ofPlan plan).positionsOf key).Nodup :=
    (positionsOf_ofPlan_pairwise plan key).imp Nat.ne_of_lt
  refine ⟨(key, (ofPlan plan).positionsOf key),
    (mem_positions_ofPlan_iff plan key _).mpr ⟨known, rfl⟩,
    List.count_eq_one_of_mem distinct listed, ?_⟩
  rintro ⟨other, positions⟩ entry member
  obtain ⟨-, rfl⟩ := (mem_positions_ofPlan_iff plan other positions).mp entry
  have sameKey := (mem_positionsOf_ofPlan_iff stands other).mp member
  cases keyed.symm.trans sameKey
  rfl

theorem remembersFirst_ofPlan {plan : Plan} {position : Nat} {error : ResolutionError}
    (remembered : (ofPlan plan).malformed = some (position, error)) :
    ∃ call, plan.callAt? position = some call ∧ NameKey.IsMalformed call.name ∧
      error = .emptyFunctionName call.name ∧
      ∀ earlier < position, ∀ other, plan.callAt? earlier = some other →
        ¬ NameKey.IsMalformed other.name := by
  rw [malformed_ofPlan] at remembered
  obtain ⟨⟨_, call⟩, found, written⟩ := Option.map_eq_some_iff.mp remembered
  cases written
  obtain ⟨malformed, passed, rest, split, fine⟩ := List.find?_eq_some_iff_append.mp found
  have site := List.mem_of_find?_eq_some found
  refine ⟨call, (plan.mem_callSites_iff _ call).mp site, of_decide_eq_true malformed, rfl, ?_⟩
  intro earlier before other stands
  have present := (plan.mem_callSites_iff earlier other).mpr stands
  have among := Plan.mem_passed_of_lt split present before
  exact of_decide_eq_false (Bool.not_eq_true' _ ▸ fine _ among)

theorem partitions_ofPlan (plan : Plan) : (ofPlan plan).Partitions plan where
  distinct := nodup_keys_ofPlan plan
  increasing := by
    intro key positions entry
    obtain ⟨-, rfl⟩ := (mem_positions_ofPlan_iff plan key positions).mp entry
    exact positionsOf_ofPlan_pairwise plan key
  holdsCalls := by
    intro key positions entry position listed
    obtain ⟨-, rfl⟩ := (mem_positions_ofPlan_iff plan key positions).mp entry
    exact exists_callAt?_of_mem_positionsOf listed
  findsAll := by
    intro key positions entry
    obtain ⟨-, rfl⟩ := (mem_positions_ofPlan_iff plan key positions).mp entry
    rw [candidates_ofPlan, positionsOf_ofPlan]
  listsOnce _ _ := listsOnce_ofPlan
  remembersFirst _ _ := remembersFirst_ofPlan
  forgetsNone := by
    intro nothing call member
    rw [malformed_ofPlan, Option.map_eq_none_iff, List.find?_eq_none] at nothing
    rw [← plan.callSites_map_snd] at member
    obtain ⟨site, present, rfl⟩ := List.mem_map.mp member
    exact of_decide_eq_false (Bool.not_eq_true _ ▸ nothing site present)

/-! ### Counting the calls -/

/-- How many call sites an index gives for a name. -/
def callCount (index : CallSiteIndex) (name : String) : Nat :=
  ((index.callSites name).toOption.getD []).length

theorem callCount_ofPlan (plan : Plan) {name : String} {key : NameKey}
    (keyed : NameKey.of? name = some key) :
    (ofPlan plan).callCount name = plan.nameKeys.count key := by
  rw [callCount, callSites_of_key plan keyed, plan.count_nameKeys]
  simp [Except.toOption]

/-- The index of a plan is a partition of its well-formed top-level calls: they are sorted by
key into lists of their positions, each call stands once in the one list of its key, in plan
order, and the first malformed call is remembered.  So every well-formed name has exactly the
call sites with its key, in plan order; there are as many keys as distinct ones among the
calls, and none only if every call is malformed; and by whichever name each key is asked for,
the call sites of all keys are as many as the well-formed calls. -/
theorem well_formed_calls_are_partitioned (plan : Plan) :
    let index := ofPlan plan
    index.Partitions plan ∧
    (∀ name, ¬ NameKey.IsMalformed name → ∃ key, NameKey.of? name = some key ∧
      index.callSites name = .ok ((plan.callSites.filter (hasKey key)).map Prod.snd)) ∧
    index.size = plan.nameKeys.toFinset.card ∧
    (index.isEmpty = true ↔ ∀ call ∈ plan.calls, NameKey.IsMalformed call.name) ∧
    ∀ spelling : NameKey → String,
      (∀ key ∈ plan.nameKeys, NameKey.of? (spelling key) = some key) →
        ∑ key ∈ plan.nameKeys.toFinset, index.callCount (spelling key) =
          plan.calls.countP fun call => ¬ NameKey.IsMalformed call.name := by
  intro index
  refine ⟨partitions_ofPlan plan, ?_, size_ofPlan plan, isEmpty_ofPlan_iff plan, ?_⟩
  · intro name wellFormed
    obtain ⟨key, keyed⟩ := NameKey.exists_of?_eq_some wellFormed
    exact ⟨key, keyed, callSites_of_key plan keyed⟩
  · intro spelling spells
    calc
      ∑ key ∈ plan.nameKeys.toFinset, index.callCount (spelling key)
      _ = ∑ key ∈ plan.nameKeys.toFinset, plan.nameKeys.count key :=
        Finset.sum_congr rfl fun key member =>
          callCount_ofPlan plan (spells key (List.mem_toFinset.mp member))
      _ = plan.nameKeys.length := List.sum_toFinset_count_eq_length plan.nameKeys
      _ = plan.calls.countP fun call => ¬ NameKey.IsMalformed call.name := plan.length_nameKeys

/-- Malformed calls around and between the overloads move none of them, and a malformed call
inside an argument is not remembered. -/
theorem well_formed_calls_are_partitioned_around_malformed :
    let plan : Plan := ⟨[.call "pad" .text [.call "__inner" .text []], .call "__bad" .text [],
      .column none "city" .text, .call "trim" .text [], .call "PAD__x" .text [],
      .call "__" .text []]⟩
    let index := ofPlan plan
    let spelling := fun key : NameKey => if key.text = "pad" then "Pad__y" else key.text
    plan.callAt? 4 = some ⟨"PAD__x", .text, []⟩ ∧ ¬ NameKey.IsMalformed "PAD__x" ∧
      (∃ entry ∈ index.positions, entry.2.count 4 = 1 ∧
        ∀ other ∈ index.positions, 4 ∈ other.2 → other = entry) ∧
      index.malformed = some (1, .emptyFunctionName "__bad") ∧
      (∃ call, plan.callAt? 1 = some call ∧ NameKey.IsMalformed call.name) ∧
      (∃ key, NameKey.of? "Pad__y" = some key ∧
        index.callSites "Pad__y" = .ok ((plan.callSites.filter (hasKey key)).map Prod.snd)) ∧
      (∀ key ∈ plan.nameKeys, NameKey.of? (spelling key) = some key) ∧
      ∑ key ∈ plan.nameKeys.toFinset, index.callCount (spelling key) = 3 := by
  intro plan index spelling
  obtain ⟨partitions, answers, -, -, counts⟩ := well_formed_calls_are_partitioned plan
  have stands : plan.callAt? 4 = some ⟨"PAD__x", .text, []⟩ := rfl
  have wellFormed : ¬ NameKey.IsMalformed "PAD__x" := by decide
  have remembered : index.malformed = some (1, .emptyFunctionName "__bad") := by decide +kernel
  have spells : ∀ key ∈ plan.nameKeys, NameKey.of? (spelling key) = some key := by
    decide +kernel
  obtain ⟨call, found, malformed, -⟩ := partitions.remembersFirst 1 _ remembered
  refine ⟨stands, wellFormed, partitions.listsOnce 4 _ stands wellFormed, remembered,
    ⟨call, found, malformed⟩, answers "Pad__y" (by decide), spells, ?_⟩
  rw [counts spelling spells]
  decide

end CallSiteIndex

end RowFunctions

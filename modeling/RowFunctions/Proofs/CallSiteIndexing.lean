import RowFunctions.CallSiteResolution
import RowFunctions.Proofs.AssociationLists

/-!
# What the index of call sites holds

The index of a plan is built by one pass over its call sites.  After the pass
every key lists the positions of exactly the call sites with that key, in plan
order, and the remembered failure is the one of the first call site without
key.  Looking a key up therefore gives the call sites with that key, in plan
order, no matter how keys and malformed names are interleaved.
-/

namespace RowFunctions

namespace NameKey

/-- A name is malformed when it starts with the two underscores of a suffix. -/
def IsMalformed (name : String) : Prop := ['_', '_'] <+: name.toList

instance (name : String) : Decidable (IsMalformed name) :=
  inferInstanceAs (Decidable (['_', '_'] <+: name.toList))

theorem isOnlySuffix_eq_true_iff (text : List Char) :
    isOnlySuffix text = true ↔ ['_', '_'] <+: text := by
  constructor
  · intro only
    unfold isOnlySuffix at only
    split at only
    · exact ⟨_, rfl⟩
    · contradiction
  · rintro ⟨rest, rfl⟩
    rfl

/-- Exactly the malformed names have no key. -/
theorem of?_eq_none_iff (name : String) : of? name = none ↔ IsMalformed name := by
  unfold of? dropSuffix? IsMalformed
  rw [← isOnlySuffix_eq_true_iff]
  by_cases only : isOnlySuffix name.toList = true <;> simp [only]

theorem exists_of?_eq_some {name : String} (wellFormed : ¬ IsMalformed name) :
    ∃ key, of? name = some key := by
  rw [← of?_eq_none_iff] at wellFormed
  exact Option.ne_none_iff_exists'.mp wellFormed

theorem of_of?_some {name : String} {key : NameKey} (keyed : of? name = some key) :
    of name = .ok key := by
  simp [of, keyed]

theorem of_of?_none {name : String} (keyless : of? name = none) :
    of name = .error (.emptyFunctionName name) := by
  simp [of, keyless]

end NameKey

namespace Plan

/-- The top-level calls of a plan, in plan order. -/
def calls (plan : Plan) : List FunctionCall := plan.targets.filterMap Expression.call?

theorem mem_callSites_iff (plan : Plan) (position : Nat) (call : FunctionCall) :
    (position, call) ∈ plan.callSites ↔
      (plan.targets[position]?).bind Expression.call? = some call := by
  unfold callSites
  rw [List.mem_filterMap]
  constructor
  · rintro ⟨⟨target, index⟩, member, found⟩
    simp only [Option.map_eq_some_iff, Prod.mk.injEq] at found
    obtain ⟨_, called, rfl, rfl⟩ := found
    rw [List.mem_zipIdx_iff_getElem?] at member
    rw [member, Option.bind_some, called]
  · intro found
    obtain ⟨target, stands, called⟩ := Option.bind_eq_some_iff.mp found
    refine ⟨(target, position), ?_, by simp [called]⟩
    rw [List.mem_zipIdx_iff_getElem?]
    exact stands

theorem callSites_pairwise (plan : Plan) :
    plan.callSites.Pairwise fun earlier later => earlier.1 < later.1 := by
  unfold callSites
  rw [List.pairwise_filterMap]
  have increasing : plan.targets.zipIdx.Pairwise fun earlier later =>
      earlier.2 < later.2 := by
    have positions := List.pairwise_lt_range' (s := 0) (n := plan.targets.length)
    rw [← List.zipIdx_map_snd 0 plan.targets, List.pairwise_map] at positions
    exact positions
  refine increasing.imp ?_
  intro earlier later before site found site' found'
  simp only [Option.map_eq_some_iff] at found found'
  obtain ⟨_, _, rfl⟩ := found
  obtain ⟨_, _, rfl⟩ := found'
  exact before

theorem callSites_map_snd (plan : Plan) : plan.callSites.map Prod.snd = plan.calls := by
  have forgetting (targets : List Expression) (start : Nat) :
      ((targets.zipIdx start).filterMap fun entry =>
        entry.1.call?.map fun call => (entry.2, call)).map Prod.snd =
        targets.filterMap Expression.call? := by
    induction targets generalizing start with
    | nil => rfl
    | cons target targets ih =>
        cases called : target.call? <;> simp [called, ih]
  exact forgetting plan.targets 0

end Plan

namespace CallSiteIndex

def positionsOf (index : CallSiteIndex) (key : NameKey) : List Nat :=
  (index.positions.lookup key).getD []

def hasKey (key : NameKey) (site : Nat × FunctionCall) : Bool :=
  NameKey.of? site.2.name == some key

/-- Whether the call at a site has a malformed name. -/
def isMalformed (site : Nat × FunctionCall) : Bool :=
  decide (NameKey.IsMalformed site.2.name)

def malformedEntry (site : Nat × FunctionCall) : Nat × ResolutionError :=
  (site.1, .emptyFunctionName site.2.name)

theorem isMalformed_eq_true_iff (site : Nat × FunctionCall) :
    isMalformed site = true ↔ NameKey.of? site.2.name = none := by
  rw [isMalformed, decide_eq_true_eq, NameKey.of?_eq_none_iff]

theorem isMalformed_eq_false_of_key {site : Nat × FunctionCall} {key : NameKey}
    (keyed : NameKey.of? site.2.name = some key) : isMalformed site = false := by
  rw [← Bool.not_eq_true, isMalformed_eq_true_iff]
  simp [keyed]

theorem lookup_addPosition (key other : NameKey) (position : Nat)
    (entries : List (NameKey × List Nat)) :
    (addPosition key position entries).lookup other =
      if other = key then some ((entries.lookup key).getD [] ++ [position])
      else entries.lookup other := by
  induction entries with
  | nil => simp [addPosition, AssociationList.lookup_cons]
  | cons entry entries ih =>
      obtain ⟨present, positions⟩ := entry
      simp only [addPosition]
      by_cases found : present = key
      · subst found
        by_cases same : other = present <;> simp [AssociationList.lookup_cons, same]
      · have keyNe : ¬ key = present := Ne.symm found
        rw [if_neg found, AssociationList.lookup_cons, AssociationList.lookup_cons, if_neg keyNe,
          ih]
        by_cases here : other = present
        · subst here
          simp [found]
        · simp [AssociationList.lookup_cons, here]

theorem positionsOf_addCallSite (index : CallSiteIndex) (site : Nat × FunctionCall)
    (key : NameKey) :
    (index.addCallSite site).positionsOf key =
      index.positionsOf key ++ if hasKey key site then [site.1] else [] := by
  unfold addCallSite positionsOf hasKey
  cases keyed : NameKey.of? site.2.name with
  | none => simp [NameKey.of_of?_none keyed]
  | some siteKey =>
      rw [NameKey.of_of?_some keyed]
      simp only [lookup_addPosition]
      by_cases same : key = siteKey
      · simp [same]
      · have siteKeyNe : ¬ siteKey = key := Ne.symm same
        simp [same, siteKeyNe]

theorem malformed_addCallSite (index : CallSiteIndex) (site : Nat × FunctionCall) :
    (index.addCallSite site).malformed =
      index.malformed.or (if isMalformed site then some (malformedEntry site) else none) := by
  unfold addCallSite
  cases keyed : NameKey.of? site.2.name with
  | none =>
      have malformed := (isMalformed_eq_true_iff site).mpr keyed
      simp [NameKey.of_of?_none keyed, malformed, malformedEntry]
  | some siteKey =>
      simp [NameKey.of_of?_some keyed, isMalformed_eq_false_of_key keyed]

theorem plan_addCallSite (index : CallSiteIndex) (site : Nat × FunctionCall) :
    (index.addCallSite site).plan = index.plan := by
  unfold addCallSite
  split <;> rfl

theorem positionsOf_foldl_addCallSite (sites : List (Nat × FunctionCall))
    (index : CallSiteIndex) (key : NameKey) :
    (sites.foldl addCallSite index).positionsOf key =
      index.positionsOf key ++ (sites.filter (hasKey key)).map Prod.fst := by
  induction sites generalizing index with
  | nil => simp
  | cons site sites ih =>
      rw [List.foldl_cons, ih, positionsOf_addCallSite]
      cases keyed : hasKey key site <;> simp [keyed]

theorem malformed_foldl_addCallSite (sites : List (Nat × FunctionCall))
    (index : CallSiteIndex) :
    (sites.foldl addCallSite index).malformed =
      index.malformed.or ((sites.find? isMalformed).map malformedEntry) := by
  induction sites generalizing index with
  | nil => simp
  | cons site sites ih =>
      rw [List.foldl_cons, ih, malformed_addCallSite]
      cases malformed : isMalformed site <;> simp [malformed]

theorem plan_foldl_addCallSite (sites : List (Nat × FunctionCall)) (index : CallSiteIndex) :
    (sites.foldl addCallSite index).plan = index.plan := by
  induction sites generalizing index with
  | nil => rfl
  | cons site sites ih => rw [List.foldl_cons, ih, plan_addCallSite]

@[simp]
theorem plan_ofPlan (plan : Plan) : (ofPlan plan).plan = plan :=
  plan_foldl_addCallSite plan.callSites _

/-- A key lists the positions of the call sites with that key, in plan order. -/
theorem positionsOf_ofPlan (plan : Plan) (key : NameKey) :
    (ofPlan plan).positionsOf key = (plan.callSites.filter (hasKey key)).map Prod.fst := by
  rw [ofPlan, positionsOf_foldl_addCallSite]
  rfl

/-- The remembered failure is the one of the first malformed call site. -/
theorem malformed_ofPlan (plan : Plan) :
    (ofPlan plan).malformed = (plan.callSites.find? isMalformed).map malformedEntry := by
  rw [ofPlan, malformed_foldl_addCallSite, Option.none_or]

/-- Looking a key up loses no call site and changes no order. -/
theorem candidates_ofPlan (plan : Plan) (key : NameKey) :
    (ofPlan plan).candidates key = plan.callSites.filter (hasKey key) := by
  unfold candidates
  rw [← positionsOf, positionsOf_ofPlan, plan_ofPlan, List.filterMap_map]
  have stands : ∀ site ∈ plan.callSites.filter (hasKey key),
      ((plan.targets[site.1]?).bind fun target =>
        target.call?.map fun call => (site.1, call)) = some site := by
    rintro ⟨position, call⟩ member
    have present := (plan.mem_callSites_iff position call).mp (List.mem_filter.mp member).1
    obtain ⟨target, atPosition, called⟩ := Option.bind_eq_some_iff.mp present
    simp [atPosition, called]
  calc
    _ = (plan.callSites.filter (hasKey key)).filterMap some :=
      List.filterMap_congr stands
    _ = plan.callSites.filter (hasKey key) := List.filterMap_some

theorem callSites_of_key (plan : Plan) {name : String} {key : NameKey}
    (keyed : NameKey.of? name = some key) :
    (ofPlan plan).callSites name =
      .ok ((plan.callSites.filter (hasKey key)).map Prod.snd) := by
  simp only [callSites, NameKey.of_of?_some keyed, candidates_ofPlan]

end CallSiteIndex

end RowFunctions

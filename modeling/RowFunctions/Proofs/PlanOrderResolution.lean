import RowFunctions.Proofs.CallSiteIndexing

/-!
# Resolution as a scan of the plan

A resolution looks an invoked name up in the index of call sites.  This file
says what the answer is without any index, by a scan over the top-level calls of
the plan in plan order, and proves that the two agree for every plan, name,
arity and argument.

The scan passes over the calls that do not answer to the name.  A malformed call
among those passed stops it; otherwise the calls that answer to the name decide.
-/

namespace RowFunctions

namespace FunctionCall

/-- Whether a call has a key and, if an arity is asked for, so many arguments. -/
def answersTo (key : NameKey) (arity : Option Nat) (call : FunctionCall) : Bool :=
  NameKey.of? call.name == some key && arity.all (· == call.arguments.length)

/-- The dictionary of an argument, if the argument exists and is text, or an
array of text, that is stored in a dictionary. -/
def boundDictionary? (call : FunctionCall) (argument : Nat) : Option DictionaryId :=
  (call.arguments[argument]?).bind fun expression => expression.type.dictionary?

/-- The failure of a call that binds no dictionary at an argument. -/
def bindingFailure (call : FunctionCall) (argument : Nat) : ResolutionError :=
  match call.arguments[argument]? with
  | none => .argumentOutOfRange call.name argument call.arguments.length
  | some expression => .notDictionaryEncoded call.name argument expression.type.display

theorem argumentDictionary_of_bound {call : FunctionCall} {argument : Nat}
    {dictionary : DictionaryId} (bound : call.boundDictionary? argument = some dictionary) :
    call.argumentDictionary argument = .ok dictionary := by
  obtain ⟨expression, present, encoded⟩ := Option.bind_eq_some_iff.mp bound
  simp [argumentDictionary, present, encoded]

theorem argumentDictionary_of_unbound {call : FunctionCall} {argument : Nat}
    (unbound : call.boundDictionary? argument = none) :
    call.argumentDictionary argument = .error (call.bindingFailure argument) := by
  unfold argumentDictionary bindingFailure
  unfold boundDictionary? at unbound
  cases present : call.arguments[argument]? with
  | none => rfl
  | some expression =>
      rw [present, Option.bind_some] at unbound
      simp [unbound]

end FunctionCall

namespace Plan

/-- The answer of the calls that answer to a name: the first that binds a
dictionary decides, and if there is none, the first call fails. -/
def verdict (name : String) (key : NameKey) (argument : Nat) :
    List FunctionCall → Except ResolutionError DictionaryId
  | [] => .error (.noMatchingCallSite name key)
  | first :: others =>
      match (first :: others).findSome? (·.boundDictionary? argument) with
      | some dictionary => .ok dictionary
      | none => .error (first.bindingFailure argument)

/-- Scan the calls of a plan in plan order for the dictionary behind one
argument of an invoked function. -/
def scan (plan : Plan) (name : String) (arity : Option Nat) (argument : Nat) :
    Except ResolutionError DictionaryId :=
  match NameKey.of? name with
  | none => .error (.emptyFunctionName name)
  | some key =>
      let passed := plan.calls.takeWhile fun call => !call.answersTo key arity
      match passed.find? fun call => NameKey.IsMalformed call.name with
      | some malformed => .error (.emptyFunctionName malformed.name)
      | none => verdict name key argument (plan.calls.filter (FunctionCall.answersTo key arity))

end Plan

namespace CallSiteIndex

namespace Selection

variable (name : String) (argument : Nat)

/-- Once a call is chosen, further candidates change neither the choice nor the
remembered failure. -/
theorem foldl_consider_of_chosen (calls : List FunctionCall) (selection : Selection)
    {choice : FunctionCall × DictionaryId} (chosen : selection.chosen = some choice) :
    (calls.foldl (consider name argument) selection).chosen = some choice ∧
      (calls.foldl (consider name argument) selection).failure = selection.failure := by
  induction calls generalizing selection with
  | nil => exact ⟨chosen, rfl⟩
  | cons call calls ih =>
      have step : (consider name argument selection call).chosen = some choice ∧
          (consider name argument selection call).failure = selection.failure := by
        unfold consider
        rw [chosen]
        cases bound : call.argumentDictionary argument with
        | error error => exact ⟨chosen, rfl⟩
        | ok dictionary => by_cases same : choice.2 = dictionary <;> simp [same, chosen]
      rw [List.foldl_cons]
      have rest := ih (consider name argument selection call) step.1
      exact ⟨rest.1, rest.2.trans step.2⟩

/-- Candidates that bind no dictionary leave the choice open; the failure of the
first of them is kept. -/
theorem foldl_consider_of_unbound (calls : List FunctionCall) (selection : Selection)
    (undecided : selection.chosen = none)
    (unbound : ∀ call ∈ calls, call.boundDictionary? argument = none) :
    (calls.foldl (consider name argument) selection).chosen = none ∧
      (calls.foldl (consider name argument) selection).failure =
        selection.failure.or (calls.head?.map (·.bindingFailure argument)) := by
  induction calls generalizing selection with
  | nil => exact ⟨undecided, by simp⟩
  | cons call calls ih =>
      have failing := FunctionCall.argumentDictionary_of_unbound (unbound call (by simp))
      have step : consider name argument selection call =
          { selection with
            failure := selection.failure.or (some (call.bindingFailure argument)) } := by
        simp [consider, failing, undecided]
      rw [List.foldl_cons, step]
      have rest := ih { selection with
          failure := selection.failure.or (some (call.bindingFailure argument)) } undecided
        (fun later member => unbound later (by simp [member]))
      refine ⟨rest.1, rest.2.trans ?_⟩
      cases selection.failure <;> simp

theorem foldl_consider_of_findSome? {calls : List FunctionCall} {dictionary : DictionaryId}
    (found : calls.findSome? (·.boundDictionary? argument) = some dictionary) :
    ∃ call, (calls.foldl (consider name argument) ⟨none, none, []⟩).chosen =
      some (call, dictionary) := by
  obtain ⟨before, call, after, rfl, bound, unbound⟩ := List.findSome?_eq_some_iff.mp found
  have binds := FunctionCall.argumentDictionary_of_bound bound
  have passed := foldl_consider_of_unbound name argument before ⟨none, none, []⟩ rfl unbound
  generalize reached : before.foldl (consider name argument) ⟨none, none, []⟩ = selection
    at passed
  have chosen : (consider name argument selection call).chosen = some (call, dictionary) := by
    simp [consider, binds, passed.1]
  refine ⟨call, ?_⟩
  rw [List.foldl_append, List.foldl_cons, reached]
  exact (foldl_consider_of_chosen name argument after _ chosen).1

end Selection

/-- A selection answers like a scan past the remembered malformed call site. -/
theorem outcome_select (index : CallSiteIndex) (name : String) (key : NameKey)
    (argument : Nat) (candidates : List (Nat × FunctionCall)) :
    (index.select name key argument candidates).outcome =
      match index.malformedFirst? candidates with
      | some error => .error error
      | none => Plan.verdict name key argument (candidates.map Prod.snd) := by
  unfold select
  cases index.malformedFirst? candidates with
  | some error => rfl
  | none =>
      generalize candidates.map Prod.snd = calls
      cases found : calls.findSome? (·.boundDictionary? argument) with
      | some dictionary =>
          obtain ⟨call, chosen⟩ := Selection.foldl_consider_of_findSome? name argument found
          cases calls with
          | nil => contradiction
          | cons first others =>
              simp only [Plan.verdict, found]
              rw [chosen]
      | none =>
          have unbound := List.findSome?_eq_none_iff.mp found
          have passed := Selection.foldl_consider_of_unbound name argument calls
            ⟨none, none, []⟩ rfl unbound
          cases calls with
          | nil => rfl
          | cons first others =>
              simp only [Plan.verdict, found]
              rw [passed.1, passed.2]
              rfl

/-- A malformed call site stands before the candidates exactly if a scan that
stops at the first candidate passes over one. -/
theorem malformedFirst?_filter (sites : List (Nat × FunctionCall))
    (ordered : sites.Pairwise fun earlier later => earlier.1 < later.1)
    (sought : Nat × FunctionCall → Bool)
    (wellFormed : ∀ site ∈ sites, sought site = true → isMalformed site = false)
    (index : CallSiteIndex)
    (remembered : index.malformed = (sites.find? isMalformed).map malformedEntry) :
    index.malformedFirst? (sites.filter sought) =
      ((sites.takeWhile fun site => !sought site).find? isMalformed).map
        fun site => .emptyFunctionName site.2.name := by
  induction sites with
  | nil => simp [malformedFirst?, remembered]
  | cons site sites ih =>
      have later := (List.pairwise_cons.mp ordered).1
      cases soughtHere : sought site with
      | true =>
          have fine := wellFormed site (by simp) soughtHere
          rw [List.find?_cons_of_neg (by simp [fine])] at remembered
          -- The scan stops here, and what is malformed stands further on.
          unfold malformedFirst?
          rw [remembered]
          cases found : sites.find? isMalformed with
          | none => simp [soughtHere]
          | some bad =>
              have notBefore : ¬ bad.1 < site.1 :=
                Nat.lt_asymm (later bad (List.mem_of_find?_eq_some found))
              simp [soughtHere, malformedEntry, notBefore]
      | false =>
          cases malformedHere : isMalformed site with
          | true =>
              rw [List.find?_cons_of_pos malformedHere, Option.map_some] at remembered
              rw [List.filter_cons_of_neg (by simp [soughtHere]),
                List.takeWhile_cons_of_pos (by simp [soughtHere]),
                List.find?_cons_of_pos malformedHere]
              -- This site is the remembered one, and all candidates come after it.
              unfold malformedFirst?
              rw [remembered]
              cases candidates : sites.filter sought with
              | nil => rfl
              | cons first others =>
                  have member : first ∈ sites.filter sought := by simp [candidates]
                  have before : site.1 < first.1 :=
                    later first (List.mem_filter.mp member).1
                  simp [malformedEntry, before]
          | false =>
              rw [List.find?_cons_of_neg (by simp [malformedHere])] at remembered
              rw [List.filter_cons_of_neg (by simp [soughtHere]),
                List.takeWhile_cons_of_pos (by simp [soughtHere]),
                List.find?_cons_of_neg (by simp [malformedHere])]
              exact ih (List.pairwise_cons.mp ordered).2
                (fun other member => wellFormed other (by simp [member])) remembered

theorem resolve_of_key (plan : Plan) {name : String} {key : NameKey}
    (keyed : NameKey.of? name = some key) (arity : Option Nat) (argument : Nat) :
    (ofPlan plan).resolve name arity argument =
      (ofPlan plan).select name key argument
        (plan.callSites.filter fun site => site.2.answersTo key arity) := by
  unfold resolve
  rw [NameKey.of_of?_some keyed]
  cases arity with
  | none =>
      simp only [candidates_ofPlan]
      congr 1
      apply List.filter_congr
      intro site _
      simp [hasKey, FunctionCall.answersTo]
  | some arity =>
      simp only [candidates_ofPlan, List.filter_filter]
      congr 1
      apply List.filter_congr
      intro site _
      simp only [hasKey, FunctionCall.answersTo, FunctionCall.arity, Option.all_some]
      rw [Bool.and_comm, BEq.comm (a := arity)]

theorem isMalformed_of_answersTo {key : NameKey} {arity : Option Nat}
    {site : Nat × FunctionCall} (answers : site.2.answersTo key arity = true) :
    isMalformed site = false := by
  have siteKey : NameKey.of? site.2.name = some key := by
    simp only [FunctionCall.answersTo, Bool.and_eq_true, beq_iff_eq] at answers
    exact answers.1
  exact isMalformed_eq_false_of_key siteKey

/-- The indexed resolver answers exactly what a scan of the plan answers. -/
theorem resolve_outcome_eq_scan (plan : Plan) (name : String) (arity : Option Nat)
    (argument : Nat) :
    ((ofPlan plan).resolve name arity argument).outcome = plan.scan name arity argument := by
  cases keyed : NameKey.of? name with
  | none => simp [resolve, Plan.scan, keyed, NameKey.of_of?_none keyed]
  | some key =>
      rw [resolve_of_key plan keyed, outcome_select,
        malformedFirst?_filter plan.callSites plan.callSites_pairwise _
          (fun _ _ answers => isMalformed_of_answersTo answers) _ (malformed_ofPlan plan)]
      simp only [Plan.scan, keyed, ← plan.callSites_map_snd, List.takeWhile_map, List.find?_map,
        List.filter_map, Function.comp_def]
      change _ = match Option.map Prod.snd (List.find? isMalformed _) with
        | some malformed => _
        | none => _
      cases List.find? isMalformed
        (plan.callSites.takeWhile fun site => !site.2.answersTo key arity) <;> rfl

/-- A malformed call after the first match is not reached, but it stops a search
that finds no match before it. -/
example :
    let plan : Plan := ⟨[.call "good" .text [.column none "b" (.dictionaryText 2)],
      .call "__bad" .text []]⟩
    plan.scan "GOOD__x" none 0 = .ok 2 ∧
      plan.scan "good" (some 3) 0 = .error (.emptyFunctionName "__bad") := by
  decide +kernel

end CallSiteIndex

end RowFunctions

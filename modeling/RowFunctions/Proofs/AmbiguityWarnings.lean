import RowFunctions.Proofs.PlanOrderResolution

/-!
# Warnings about ambiguous calls

Overloads of a function may bind different dictionaries, and a resolution answers with
that of the first which binds any.  The others leave their trace in the warnings alone.
This file says which warnings there are: a failed resolution gives none, and a
resolution that answers with the dictionary of a call gives one for each later call that
binds another one.  Indexing a plan gives one for each malformed call.
-/

namespace RowFunctions

/-- The calls that bind another dictionary at an argument, with what they bind. -/
def FunctionCall.disagreeing (argument : Nat) (dictionary : DictionaryId)
    (calls : List FunctionCall) : List (FunctionCall × DictionaryId) :=
  calls.filterMap fun call =>
    ((call.boundDictionary? argument).filter (· != dictionary)).map fun other => (call, other)

theorem FunctionCall.disagreeing_eq_nil_iff (argument : Nat) (dictionary : DictionaryId)
    (calls : List FunctionCall) :
    disagreeing argument dictionary calls = [] ↔
      ∀ call ∈ calls, ∀ other ∈ call.boundDictionary? argument, other = dictionary := by
  simp only [disagreeing, List.filterMap_eq_nil_iff, Option.map_eq_none_iff,
    Option.filter_eq_none_iff, bne_iff_ne, ne_eq, not_not, Option.mem_def]

/-- Nothing disagrees with the first call that binds a dictionary exactly if all calls agree. -/
theorem FunctionCall.disagreeing_later_eq_nil_iff {argument : Nat} {dictionary : DictionaryId}
    {passed later : List FunctionCall} {chosen : FunctionCall}
    (unbound : ∀ call ∈ passed, call.boundDictionary? argument = none)
    (bound : chosen.boundDictionary? argument = some dictionary) :
    disagreeing argument dictionary later = [] ↔ ∀ call ∈ passed ++ chosen :: later,
      ∀ other ∈ call.boundDictionary? argument, other = dictionary := by
  have before : ∀ call ∈ passed, ∀ other ∈ call.boundDictionary? argument, other = dictionary := by
    intro call member other binds
    simp [unbound call member] at binds
  have here : ∀ other ∈ chosen.boundDictionary? argument, other = dictionary := by
    intro other binds
    exact Option.some.inj (binds.symm.trans bound)
  rw [disagreeing_eq_nil_iff, List.forall_mem_append, List.forall_mem_cons]
  exact ⟨fun agree => ⟨before, here, agree⟩, fun agree => agree.2.2⟩

theorem FunctionCall.disagreeing_cons (argument : Nat) (dictionary : DictionaryId)
    (call : FunctionCall) (calls : List FunctionCall) :
    disagreeing argument dictionary (call :: calls) =
      disagreeing argument dictionary [call] ++ disagreeing argument dictionary calls :=
  List.filterMap_append (l := [call])

namespace CallSiteIndex

namespace Selection

variable (name : String) (argument : Nat)

/-- The warning about a call that binds another dictionary than the chosen one. -/
def warning (chosen : FunctionCall) (dictionary : DictionaryId)
    (other : FunctionCall × DictionaryId) : ResolutionWarning :=
  .ambiguous name argument chosen dictionary other.1 other.2

/-- Candidates that bind no dictionary give no warning while the choice is open. -/
theorem warnings_foldl_of_unbound (calls : List FunctionCall) (selection : Selection)
    (undecided : selection.chosen = none)
    (unbound : ∀ call ∈ calls, call.boundDictionary? argument = none) :
    (calls.foldl (consider name argument) selection).warnings = selection.warnings := by
  induction calls generalizing selection with
  | nil => rfl
  | cons call calls ih =>
      have failing := FunctionCall.argumentDictionary_of_unbound (unbound call (by simp))
      have step : consider name argument selection call =
          { selection with
            failure := selection.failure.or (some (call.bindingFailure argument)) } := by
        simp [consider, failing, undecided]
      rw [List.foldl_cons, step]
      exact ih _ undecided fun other member => unbound other (by simp [member])

/-- Once a call is chosen, a candidate that binds another dictionary gives a warning and
no other candidate does. -/
theorem warnings_consider_of_chosen (call : FunctionCall) (selection : Selection)
    {chosen : FunctionCall} {dictionary : DictionaryId}
    (choice : selection.chosen = some (chosen, dictionary)) :
    (consider name argument selection call).warnings =
      selection.warnings ++ (FunctionCall.disagreeing argument dictionary [call]).map
        (warning name argument chosen dictionary) := by
  unfold consider FunctionCall.disagreeing
  rw [choice]
  cases bound : call.boundDictionary? argument with
  | none => simp [FunctionCall.argumentDictionary_of_unbound bound, bound]
  | some other =>
      rw [FunctionCall.argumentDictionary_of_bound bound]
      by_cases same : dictionary = other
      · simp [same, bound]
      · simp [same, Ne.symm same, bound, warning]

theorem warnings_foldl_of_chosen (calls : List FunctionCall) (selection : Selection)
    {chosen : FunctionCall} {dictionary : DictionaryId}
    (choice : selection.chosen = some (chosen, dictionary)) :
    (calls.foldl (consider name argument) selection).warnings =
      selection.warnings ++ (FunctionCall.disagreeing argument dictionary calls).map
        (warning name argument chosen dictionary) := by
  induction calls generalizing selection with
  | nil => simp [FunctionCall.disagreeing]
  | cons call calls ih =>
      have kept : (consider name argument selection call).chosen = some (chosen, dictionary) :=
        (foldl_consider_of_chosen name argument [call] selection choice).1
      rw [List.foldl_cons, ih _ kept, warnings_consider_of_chosen name argument call _ choice,
        FunctionCall.disagreeing_cons argument dictionary call calls, List.map_append,
        List.append_assoc]

/-- The first candidate that binds a dictionary is chosen, and those after it that bind
another one give the warnings. -/
theorem foldl_consider_of_first {passed : List FunctionCall} {chosen : FunctionCall}
    (later : List FunctionCall) {dictionary : DictionaryId}
    (unbound : ∀ call ∈ passed, call.boundDictionary? argument = none)
    (bound : chosen.boundDictionary? argument = some dictionary) :
    let selection := (passed ++ chosen :: later).foldl (consider name argument) ⟨none, none, []⟩
    selection.chosen = some (chosen, dictionary) ∧
      selection.warnings = (FunctionCall.disagreeing argument dictionary later).map
        (warning name argument chosen dictionary) := by
  have binds := FunctionCall.argumentDictionary_of_bound bound
  have undecided := (foldl_consider_of_unbound name argument passed ⟨none, none, []⟩ rfl unbound).1
  have silent := warnings_foldl_of_unbound name argument passed ⟨none, none, []⟩ rfl unbound
  rw [List.foldl_append, List.foldl_cons]
  generalize passed.foldl (consider name argument) ⟨none, none, []⟩ = reached at undecided silent ⊢
  have choice : (consider name argument reached chosen).chosen = some (chosen, dictionary) ∧
      (consider name argument reached chosen).warnings = [] := by
    simp [consider, binds, undecided, silent]
  refine ⟨(foldl_consider_of_chosen name argument later _ choice.1).1, ?_⟩
  rw [warnings_foldl_of_chosen name argument later _ choice.1, choice.2, List.nil_append]

end Selection

theorem select_of_first {index : CallSiteIndex} {name : String} {key : NameKey}
    {argument : Nat} {candidates : List (Nat × FunctionCall)}
    (reached : index.malformedFirst? candidates = none) {passed later : List FunctionCall}
    {chosen : FunctionCall} {dictionary : DictionaryId}
    (split : candidates.map Prod.snd = passed ++ chosen :: later)
    (unbound : ∀ call ∈ passed, call.boundDictionary? argument = none)
    (bound : chosen.boundDictionary? argument = some dictionary) :
    index.select name key argument candidates =
      ⟨.ok dictionary, (FunctionCall.disagreeing argument dictionary later).map
        (Selection.warning name argument chosen dictionary)⟩ := by
  obtain ⟨choice, warnings⟩ :=
    Selection.foldl_consider_of_first name argument later unbound bound
  unfold select
  rw [reached, split]
  simp only [choice, warnings]

theorem select_of_unbound {index : CallSiteIndex} {name : String} {key : NameKey}
    {argument : Nat} {candidates : List (Nat × FunctionCall)}
    (reached : index.malformedFirst? candidates = none)
    (unbound : ∀ call ∈ candidates.map Prod.snd, call.boundDictionary? argument = none) :
    ∃ error, index.select name key argument candidates = ⟨.error error, []⟩ := by
  have undecided := (Selection.foldl_consider_of_unbound name argument
    (candidates.map Prod.snd) ⟨none, none, []⟩ rfl unbound).1
  have silent := Selection.warnings_foldl_of_unbound name argument
    (candidates.map Prod.snd) ⟨none, none, []⟩ rfl unbound
  unfold select
  rw [reached]
  simp only [undecided, silent]
  split
  · contradiction
  · exact ⟨_, rfl⟩
  · exact ⟨_, rfl⟩

/-- A selection fails without warnings, or the first candidate that binds a dictionary
decides it and the later ones that disagree are warned about. -/
theorem select_cases (index : CallSiteIndex) (name : String) (key : NameKey)
    (argument : Nat) (candidates : List (Nat × FunctionCall)) :
    (∃ error, index.select name key argument candidates = ⟨.error error, []⟩) ∨
      ∃ passed chosen later dictionary, candidates.map Prod.snd = passed ++ chosen :: later ∧
        (∀ call ∈ passed, call.boundDictionary? argument = none) ∧
        chosen.boundDictionary? argument = some dictionary ∧
        index.select name key argument candidates =
          ⟨.ok dictionary, (FunctionCall.disagreeing argument dictionary later).map
            (Selection.warning name argument chosen dictionary)⟩ := by
  cases reached : index.malformedFirst? candidates with
  | some error => exact .inl ⟨error, by simp [select, reached]⟩
  | none =>
      cases found : (candidates.map Prod.snd).findSome? (·.boundDictionary? argument) with
      | some dictionary =>
          obtain ⟨passed, chosen, later, split, bound, unbound⟩ :=
            List.findSome?_eq_some_iff.mp found
          exact .inr ⟨passed, chosen, later, dictionary, split, unbound, bound,
            select_of_first reached split unbound bound⟩
      | none => exact .inl (select_of_unbound reached (List.findSome?_eq_none_iff.mp found))

/-- Indexing a plan warns about each of its malformed calls, in plan order. -/
theorem buildWarnings_eq (plan : Plan) :
    buildWarnings plan = (plan.callSites.filter isMalformed).map fun site =>
      .malformedCallSite site.2 site.1 (.emptyFunctionName site.2.name) := by
  unfold buildWarnings
  induction plan.callSites with
  | nil => rfl
  | cons site sites ih =>
      cases keyed : NameKey.of? site.2.name with
      | none =>
          have malformed := (isMalformed_eq_true_iff site).mpr keyed
          rw [List.filter_cons_of_pos malformed, List.map_cons, ← ih]
          simp [NameKey.of_of?_none keyed]
      | some key =>
          have wellFormed := isMalformed_eq_false_of_key keyed
          rw [List.filter_cons_of_neg (Bool.not_eq_true _ ▸ wellFormed), ← ih]
          simp [NameKey.of_of?_some keyed]

/-- A resolution that fails gives no warnings.  One that answers with a dictionary does so
for the first call that answers to the name and binds a dictionary, and it warns, in plan
order, about exactly the later calls that answer to the name and bind another one, naming
both calls with their dictionaries and the one that is used; so it is silent exactly if all
calls that answer to the name and bind any dictionary bind the same.  Indexing the plan
warns about every malformed call, in plan order, and remembers the first of them. -/
theorem ambiguous_resolutions_are_warned_about (plan : Plan) (name : String)
    (arity : Option Nat) (argument : Nat) :
    let resolution := (ofPlan plan).resolve name arity argument
    (match resolution.outcome with
      | .error _ => resolution.warnings = []
      | .ok dictionary => ∃ key passed chosen later,
          NameKey.of? name = some key ∧
          plan.calls.filter (FunctionCall.answersTo key arity) = passed ++ chosen :: later ∧
          (∀ call ∈ passed, call.boundDictionary? argument = none) ∧
          chosen.boundDictionary? argument = some dictionary ∧
          resolution.warnings = (FunctionCall.disagreeing argument dictionary later).map
            (fun other => .ambiguous name argument chosen dictionary other.1 other.2) ∧
          resolution.warnings.map ResolutionWarning.message =
            (FunctionCall.disagreeing argument dictionary later).map (fun other =>
              "'" ++ name ++ "' argument " ++ toString argument ++ " is ambiguous: " ++
                chosen.display ++ " binds dictionary " ++ Numeral.ofInt32 dictionary ++ ", " ++
                other.1.display ++ " binds " ++ Numeral.ofInt32 other.2 ++ "; using " ++
                Numeral.ofInt32 dictionary) ∧
          (resolution.warnings = [] ↔
            ∀ call ∈ plan.calls.filter (FunctionCall.answersTo key arity),
              ∀ other ∈ call.boundDictionary? argument, other = dictionary)) ∧
    buildWarnings plan = (plan.callSites.filter isMalformed).map (fun site =>
      .malformedCallSite site.2 site.1 (.emptyFunctionName site.2.name)) ∧
    (ofPlan plan).malformed = (plan.callSites.filter isMalformed).head?.map malformedEntry := by
  intro resolution
  refine ⟨?_, buildWarnings_eq plan, ?_⟩
  · cases keyed : NameKey.of? name with
    | none => simp [resolution, resolve, NameKey.of_of?_none keyed]
    | some key =>
        have calls : (plan.callSites.filter fun site => site.2.answersTo key arity).map Prod.snd =
            plan.calls.filter (FunctionCall.answersTo key arity) := by
          rw [← plan.callSites_map_snd, List.filter_map]
          rfl
        simp only [resolution, resolve_of_key plan keyed]
        rcases select_cases (ofPlan plan) name key argument
            (plan.callSites.filter fun site => site.2.answersTo key arity) with
          ⟨error, selected⟩ | ⟨passed, chosen, later, dictionary, split, unbound, bound, selected⟩
        · rw [selected]
        · rw [calls] at split
          simp only [selected]
          refine ⟨key, passed, chosen, later, rfl, split, unbound, bound, rfl, List.map_map, ?_⟩
          rw [List.map_eq_nil_iff, split]
          exact FunctionCall.disagreeing_later_eq_nil_iff unbound bound
  · rw [malformed_ofPlan, List.head?_filter]

/-- Of the later overloads those that bind another dictionary are warned about, in plan
order, and with an arity only those that have it. -/
example :
    let plan : Plan := ⟨[.call "pad" .text [.column none "a" .text],
      .call "PAD__x" .text [.column none "b" (.dictionaryText 3)],
      .call "pad__y" .text [.column none "c" (.dictionaryText 3)],
      .call "Pad" .text [.column none "d" (.dictionaryText 5), .column none "e" .text],
      .call "pad" .text [.column none "f" (.dictionaryText 7)]]⟩
    let warnings := fun arity =>
      ((ofPlan plan).resolve "pad" arity 0).warnings.map ResolutionWarning.message
    let first :=
      "'pad' argument 0 is ambiguous: PAD__x(b) binds dictionary 3, Pad(d, e) binds 5; using 3"
    let second :=
      "'pad' argument 0 is ambiguous: PAD__x(b) binds dictionary 3, pad(f) binds 7; using 3"
    warnings none = [first, second] ∧ warnings (some 1) = [second] := by
  decide +kernel

end CallSiteIndex

end RowFunctions

import RowFunctions.Proofs.PlanOrderResolution

/-!
# Resolution in a growing plan

A plan is built by appending targets, and calls may be resolved against any of its
stages.  A search in plan order that has met a call with the name sought, or a
malformed call before it, never looks at the targets that follow, except for an
argument that binds a dictionary where no earlier call did.  So whatever is appended,
an answer that was found stays, and a failure stays or gives way to an answer.
-/

namespace RowFunctions

namespace Plan

theorem targets_foldl_append (plan : Plan) (targets : List Expression) :
    (targets.foldl append plan).targets = plan.targets ++ targets := by
  induction targets generalizing plan with
  | nil => simp
  | cons target targets ih => simp [ih, append]

theorem calls_foldl_append (plan : Plan) (targets : List Expression) :
    (targets.foldl append plan).calls = plan.calls ++ targets.filterMap Expression.call? := by
  rw [calls, targets_foldl_append, List.filterMap_append, calls]

variable (name : String) (key : NameKey) (arity : Option Nat) (argument : Nat)

/-- Pass over calls one by one.  A malformed call ends the search; the first call
that answers to the name decides it together with the later ones that do. -/
def search : List FunctionCall → Except ResolutionError DictionaryId
  | [] => .error (.noMatchingCallSite name key)
  | call :: calls =>
      if NameKey.IsMalformed call.name then
        .error (.emptyFunctionName call.name)
      else if call.answersTo key arity then
        verdict name key argument (call :: calls.filter (FunctionCall.answersTo key arity))
      else
        search calls

/-- What a search stops at and what decides it, of the calls at some sites. -/
theorem search_map_snd (sites : List (Nat × FunctionCall)) :
    search name key arity argument (sites.map Prod.snd) =
      match ((sites.takeWhile fun site => !site.2.answersTo key arity).find?
          CallSiteIndex.isMalformed).map fun site =>
            ResolutionError.emptyFunctionName site.2.name with
      | some error => .error error
      | none => verdict name key argument
          ((sites.filter fun site => site.2.answersTo key arity).map Prod.snd) := by
  induction sites with
  | nil => rfl
  | cons site sites ih =>
      cases answers : site.2.answersTo key arity with
      | true =>
          have fine := CallSiteIndex.isMalformed_of_answersTo answers
          have wellFormed : ¬ NameKey.IsMalformed site.2.name := of_decide_eq_false fine
          rw [List.map_cons, search, if_neg wellFormed, if_pos answers, List.filter_map]
          simp [answers, Function.comp_def]
      | false =>
          rw [List.map_cons, search, List.takeWhile_cons_of_pos (by simp [answers]),
            List.filter_cons_of_neg (by simp [answers])]
          by_cases malformed : NameKey.IsMalformed site.2.name
          · have found : CallSiteIndex.isMalformed site = true := decide_eq_true malformed
            rw [if_pos malformed, List.find?_cons_of_pos found, Option.map_some]
          · have passed : ¬ CallSiteIndex.isMalformed site = true := by
              simpa [CallSiteIndex.isMalformed] using malformed
            rw [if_neg malformed, if_neg (by simp [answers]), List.find?_cons_of_neg passed, ih]

/-- Calls after the first of those that decide can only add a dictionary where none
was bound. -/
theorem verdict_append (first : FunctionCall) (others more : List FunctionCall) :
    verdict name key argument (first :: (others ++ more)) =
        verdict name key argument (first :: others) ∨
      verdict name key argument (first :: others) =
          .error (first.bindingFailure argument) ∧
        ∃ dictionary, verdict name key argument (first :: (others ++ more)) = .ok dictionary := by
  simp only [verdict]
  rw [← List.cons_append, List.findSome?_append]
  cases (first :: others).findSome? (·.boundDictionary? argument) with
  | some dictionary => exact .inl rfl
  | none =>
      cases more.findSome? (·.boundDictionary? argument) with
      | some dictionary => exact .inr ⟨rfl, dictionary, rfl⟩
      | none => exact .inl rfl

/-- A longer search ends alike, unless the shorter one met no call that decides it or
none of those that do binds a dictionary. -/
theorem search_append (calls more : List FunctionCall) :
    search name key arity argument (calls ++ more) = search name key arity argument calls ∨
      search name key arity argument calls = .error (.noMatchingCallSite name key) ∨
      (∃ call : FunctionCall,
        search name key arity argument calls = .error (call.bindingFailure argument)) ∧
        ∃ dictionary, search name key arity argument (calls ++ more) = .ok dictionary := by
  induction calls with
  | nil => exact .inr (.inl rfl)
  | cons call calls ih =>
      rw [List.cons_append, search, search]
      by_cases malformed : NameKey.IsMalformed call.name
      · exact .inl (by rw [if_pos malformed, if_pos malformed])
      · rw [if_neg malformed, if_neg malformed]
        by_cases answers : call.answersTo key arity = true
        · rw [if_pos answers, if_pos answers, List.filter_append]
          rcases verdict_append name key argument call
              (calls.filter (FunctionCall.answersTo key arity))
              (more.filter (FunctionCall.answersTo key arity)) with same | ⟨failed, found⟩
          · exact .inl same
          · exact .inr (.inr ⟨⟨call, failed⟩, found⟩)
        · rw [if_neg answers, if_neg answers]
          exact ih

end Plan

namespace CallSiteIndex

theorem outcome_resolve_eq_search (plan : Plan) {name : String} {key : NameKey}
    (keyed : NameKey.of? name = some key) (arity : Option Nat) (argument : Nat) :
    ((ofPlan plan).resolve name arity argument).outcome =
      Plan.search name key arity argument plan.calls := by
  rw [resolve_of_key plan keyed, outcome_select,
    malformedFirst?_filter plan.callSites plan.callSites_pairwise _
      (fun _ _ answers => isMalformed_of_answersTo answers) _ (malformed_ofPlan plan),
    ← plan.callSites_map_snd]
  exact (Plan.search_map_snd name key arity argument plan.callSites).symm

/-- Whatever targets are appended to a plan, a resolution that found a dictionary or
met a malformed name ends as before.  One that failed for the argument of a call ends
as before or finds a dictionary.  Only a failure to find any call can give way to
another failure. -/
theorem appended_targets_keep_answers (plan : Plan) (targets : List Expression) (name : String)
    (arity : Option Nat) (argument : Nat) :
    let before := ((ofPlan plan).resolve name arity argument).outcome
    let after := ((ofPlan (targets.foldl Plan.append plan)).resolve name arity argument).outcome
    (∀ dictionary, before = .ok dictionary → after = .ok dictionary) ∧
    (∀ malformed, before = .error (.emptyFunctionName malformed) →
      after = .error (.emptyFunctionName malformed)) ∧
    (∀ function position count, before = .error (.argumentOutOfRange function position count) →
      after = .error (.argumentOutOfRange function position count) ∨
        ∃ dictionary, after = .ok dictionary) ∧
    (∀ function position found, before = .error (.notDictionaryEncoded function position found) →
      after = .error (.notDictionaryEncoded function position found) ∨
        ∃ dictionary, after = .ok dictionary) ∧
    ∀ error other, before = .error error → after = .error other → other ≠ error →
      ∃ key, error = .noMatchingCallSite name key := by
  intro before after
  have grown : after = before ∨ (∃ key, before = .error (.noMatchingCallSite name key)) ∨
      (∃ call : FunctionCall, before = .error (call.bindingFailure argument)) ∧
        ∃ dictionary, after = .ok dictionary := by
    cases keyed : NameKey.of? name with
    | none => exact .inl (by simp [before, after, resolve, NameKey.of_of?_none keyed])
    | some key =>
        simp only [before, after, outcome_resolve_eq_search _ keyed, Plan.calls_foldl_append]
        rcases Plan.search_append name key arity argument plan.calls
            (targets.filterMap Expression.call?) with same | unmatched | failed
        · exact .inl same
        · exact .inr (.inl ⟨key, unmatched⟩)
        · exact .inr (.inr failed)
  refine ⟨?_, ?_, ?_, ?_, ?_⟩
  · intro dictionary answered
    rcases grown with same | ⟨key, unmatched⟩ | ⟨⟨call, failed⟩, -⟩
    · exact same.trans answered
    · simp [unmatched] at answered
    · simp [failed] at answered
  · intro malformed answered
    rcases grown with same | ⟨key, unmatched⟩ | ⟨⟨call, failed⟩, -⟩
    · exact same.trans answered
    · simp [unmatched] at answered
    · rw [failed, FunctionCall.bindingFailure] at answered
      split at answered <;> simp at answered
  · intro function position count answered
    rcases grown with same | ⟨key, unmatched⟩ | ⟨-, found⟩
    · exact .inl (same.trans answered)
    · simp [unmatched] at answered
    · exact .inr found
  · intro function position kind answered
    rcases grown with same | ⟨key, unmatched⟩ | ⟨-, found⟩
    · exact .inl (same.trans answered)
    · simp [unmatched] at answered
    · exact .inr found
  · intro error other answered answers different
    rcases grown with same | ⟨key, unmatched⟩ | ⟨-, dictionary, found⟩
    · rw [same, answered] at answers
      exact absurd (Except.error.inj answers).symm different
    · exact ⟨key, Except.error.inj (answered.symm.trans unmatched)⟩
    · simp [found] at answers

/-- A call with a malformed name and a second overload are appended: the first stops
only the search that had met no call, the second answers where the first overload
did not. -/
theorem appended_targets_keep_answers_of_overload :
    let plan : Plan := ⟨[.call "upper" .text [.column none "a" (.dictionaryText 2)],
      .call "pad" .text [.column none "b" .text]]⟩
    let targets : List Expression := [.call "__bad" .text [],
      .call "PAD__n" .text [.column none "c" (.dictionaryText 7)]]
    let before := fun name position => ((ofPlan plan).resolve name none position).outcome
    let after := fun name position =>
      ((ofPlan (targets.foldl Plan.append plan)).resolve name none position).outcome
    (before "Upper" 0 = .ok 2 ∧ after "Upper" 0 = .ok 2) ∧
    (before "__t" 0 = .error (.emptyFunctionName "__t") ∧
      after "__t" 0 = .error (.emptyFunctionName "__t")) ∧
    (before "pad" 1 = .error (.argumentOutOfRange "pad" 1 1) ∧
      (after "pad" 1 = .error (.argumentOutOfRange "pad" 1 1) ∨
        ∃ dictionary, after "pad" 1 = .ok dictionary)) ∧
    (before "pad" 0 = .error (.notDictionaryEncoded "pad" 0 "TEXT") ∧
      (after "pad" 0 = .error (.notDictionaryEncoded "pad" 0 "TEXT") ∨
        ∃ dictionary, after "pad" 0 = .ok dictionary)) ∧
    (after "trim" 0 = .error (.emptyFunctionName "__bad") ∧
      ∃ key, ResolutionError.noMatchingCallSite "trim" ⟨"trim"⟩ =
        .noMatchingCallSite "trim" key) := by
  intro plan targets before after
  have found : before "Upper" 0 = .ok 2 := by decide +kernel
  have nameless : before "__t" 0 = .error (.emptyFunctionName "__t") := by decide +kernel
  have outside : before "pad" 1 = .error (.argumentOutOfRange "pad" 1 1) := by decide +kernel
  have plain : before "pad" 0 = .error (.notDictionaryEncoded "pad" 0 "TEXT") := by
    decide +kernel
  have unmatched : before "trim" 0 = .error (.noMatchingCallSite "trim" ⟨"trim"⟩) := by
    decide +kernel
  have stopped : after "trim" 0 = .error (.emptyFunctionName "__bad") := by decide +kernel
  have kept := fun name position => appended_targets_keep_answers plan targets name none position
  exact ⟨⟨found, (kept "Upper" 0).1 2 found⟩, ⟨nameless, (kept "__t" 0).2.1 "__t" nameless⟩,
    ⟨outside, (kept "pad" 1).2.2.1 "pad" 1 1 outside⟩,
    ⟨plain, (kept "pad" 0).2.2.2.1 "pad" 0 "TEXT" plain⟩,
    ⟨stopped, (kept "trim" 0).2.2.2.2 _ _ unmatched stopped (by decide)⟩⟩

end CallSiteIndex

end RowFunctions

import RowFunctions.Proofs.CanonicalNames
import RowFunctions.Proofs.PlanOrderResolution

/-!
# Spellings of a function name

A function is invoked and declared under many spellings: the case of ASCII
letters is free, and a suffix may follow.  All spellings of a name have the same
key, so none of them matters for a resolution, neither as the name invoked nor as
the name that a call site declares; only errors report the spelling used.

Lowercasing looks around at a capital sigma, but ASCII letters are cased in both
cases and never passed over, so a sigma among them ends its word in all spellings
or in none.
-/

namespace RowFunctions

namespace Lowercasing

/-! ### The case of ASCII letters -/

def asciiCapitals : List Char := (List.range 26).map fun index => Char.ofNat (65 + index)

theorem toLower_eq_self_or_mem (character : Char) :
    character.toLower = character ∨ character ∈ asciiCapitals := by
  unfold Char.toLower
  split
  · next capital =>
      right
      have low : 65 ≤ character.toNat := capital.1
      have high : character.toNat ≤ 90 := capital.2
      refine List.mem_map.mpr ⟨character.toNat - 65, List.mem_range.mpr (by omega), ?_⟩
      rw [Nat.add_sub_cancel' low, Char.ofNat_toNat]
  · exact .inl rfl

/-- What holds of every character alike holds of a capital and its small letter if
it does for the capitals of ASCII. -/
theorem apply_toLower {α : Type} [BEq α] [LawfulBEq α] (property : Char → α)
    (capitals : (asciiCapitals.all fun character =>
      property character.toLower == property character) = true) (character : Char) :
    property character.toLower = property character := by
  rcases toLower_eq_self_or_mem character with same | capital
  · rw [same]
  · exact beq_iff_eq.mp (List.all_eq_true.mp capitals character capital)

theorem isCased_toLower (character : Char) : isCased character.toLower = isCased character :=
  apply_toLower isCased (by decide +kernel) character

theorem isCaseIgnorable_toLower (character : Char) :
    isCaseIgnorable character.toLower = isCaseIgnorable character :=
  apply_toLower isCaseIgnorable (by decide +kernel) character

theorem ofChar_toLower (character : Char) : ofChar character.toLower = ofChar character :=
  apply_toLower ofChar (by decide +kernel) character

theorem toLower_eq_sigma_iff (character : Char) : character.toLower = 'Σ' ↔ character = 'Σ' :=
  decide_eq_decide.mp (apply_toLower (fun other => decide (other = 'Σ')) (by decide +kernel)
    character)

theorem toLower_eq_underscore_iff (character : Char) :
    character.toLower = '_' ↔ character = '_' :=
  decide_eq_decide.mp (apply_toLower (fun other => decide (other = '_')) (by decide +kernel)
    character)

theorem meetsCased_map_toLower (text : List Char) :
    meetsCased (text.map Char.toLower) = meetsCased text := by
  induction text with
  | nil => rfl
  | cons character rest ih =>
      rw [List.map_cons, meetsCased_cons, meetsCased_cons, isCaseIgnorable_toLower,
        isCased_toLower, ih]

theorem formBetween_map_toLower (before : List Char) (character : Char) (after : List Char) :
    formBetween (before.map Char.toLower) character.toLower (after.map Char.toLower) =
      formBetween before character after := by
  unfold formBetween endsWord
  rw [meetsCased_map_toLower, meetsCased_map_toLower, ofChar_toLower]
  by_cases sigma : character = 'Σ'
  · rw [if_pos sigma, if_pos ((toLower_eq_sigma_iff character).mpr sigma)]
  · rw [if_neg sigma, if_neg (mt (toLower_eq_sigma_iff character).mp sigma)]

/-- The case of ASCII letters does not matter for lowercasing. -/
theorem ofListAfter_map_toLower (before text : List Char) :
    ofListAfter (before.map Char.toLower) (text.map Char.toLower) = ofListAfter before text := by
  induction text generalizing before with
  | nil => rfl
  | cons character rest ih =>
      rw [List.map_cons, ofListAfter_cons, formBetween_map_toLower, ← List.map_cons, ih,
        ofListAfter_cons]

end Lowercasing

namespace NameKey

open Lowercasing

/-- Two names differ at most in the case of ASCII letters. -/
def AgreeUpToCase (first second : String) : Prop :=
  first.toList.map Char.toLower = second.toList.map Char.toLower

instance (first second : String) : Decidable (AgreeUpToCase first second) :=
  inferInstanceAs (Decidable (_ = _))

/-- The spellings of a name: letters of ASCII in any case, and any suffix unless the
name ends in an underscore itself. -/
inductive IsSpelling (base : String) : String → Prop where
  | plain {written : String} : AgreeUpToCase written base → IsSpelling base written
  | suffixed {written : String} (suffix : String) : AgreeUpToCase written base →
      base.toList.getLast? ≠ some '_' → IsSpelling base (written ++ "__" ++ suffix)

theorem ofString_eq_of_agreeUpToCase {first second : String}
    (agree : AgreeUpToCase first second) : ofString first = ofString second := by
  unfold ofString ofList
  rw [← ofListAfter_map_toLower [] first.toList, ← ofListAfter_map_toLower [] second.toList, agree]

theorem infix_map_toLower_iff (text : List Char) :
    ['_', '_'] <:+: text.map Char.toLower ↔ ['_', '_'] <:+: text := by
  rw [List.infix_map_iff]
  constructor
  · rintro ⟨part, inside, same⟩
    have underscores : part = ['_', '_'] := by
      obtain ⟨first, others, rfl, firstSame, othersSame⟩ := List.map_eq_cons_iff.mp same.symm
      obtain ⟨second, none, rfl, secondSame, noneSame⟩ := List.map_eq_cons_iff.mp othersSame
      rw [toLower_eq_underscore_iff] at firstSame secondSame
      rw [firstSame, secondSame, List.map_eq_nil_iff.mp noneSame]
    exact underscores ▸ inside
  · intro inside
    exact ⟨['_', '_'], inside, rfl⟩

theorem not_infix_of_agreeUpToCase {first second : String} (agree : AgreeUpToCase first second)
    (plain : ¬ ['_', '_'] <:+: second.toList) : ¬ ['_', '_'] <:+: first.toList := by
  rwa [← infix_map_toLower_iff, agree, infix_map_toLower_iff]

theorem getLast?_eq_underscore_iff (text : List Char) :
    (text.map Char.toLower).getLast? = some '_' ↔ text.getLast? = some '_' := by
  rw [List.getLast?_map, Option.map_eq_some_iff]
  simp [toLower_eq_underscore_iff]

theorem beforeSuffix_of_isOnlySuffix {text : List Char} (only : isOnlySuffix text = true) :
    beforeSuffix text = [] := by
  obtain ⟨rest, rfl⟩ := (isOnlySuffix_eq_true_iff text).mp only
  rfl

/-- A suffix is found where it was put, behind a name without one that does not end
in an underscore. -/
theorem beforeSuffix_append_suffix {base : List Char} (plain : ¬ ['_', '_'] <:+: base)
    (ending : base.getLast? ≠ some '_') (suffix : List Char) :
    beforeSuffix (base ++ '_' :: '_' :: suffix) = base := by
  induction base with
  | nil => rfl
  | cons character base ih =>
      rw [List.infix_cons_iff, not_or] at plain
      rw [List.cons_append, beforeSuffix_cons]
      · rw [ih plain.2]
        intro last
        apply ending
        rw [List.getLast?_cons, last, Option.getD_some]
      · rintro more rfl starts
        -- The underscore would be followed by another one or stand at the end.
        cases base with
        | nil => exact ending rfl
        | cons next base =>
            obtain ⟨rfl, -⟩ := List.cons.inj starts
            exact plain.1 ⟨base, rfl⟩

/-- All spellings of a name have its lowercase form as their key. -/
theorem of?_of_isSpelling {base name : String} (named : base ≠ "")
    (plain : ¬ ['_', '_'] <:+: base.toList) (spelling : IsSpelling base name) :
    of? name = some ⟨ofString base⟩ := by
  cases spelling with
  | plain agree =>
      have writtenPlain := not_infix_of_agreeUpToCase agree plain
      rw [of?_eq_some_iff, beforeSuffix_of_no_delimiter writtenPlain]
      exact ⟨isOnlySuffix_of_no_delimiter writtenPlain, (ofString_eq_of_agreeUpToCase agree).symm⟩
  | @suffixed written suffix agree ending =>
      have writtenPlain := not_infix_of_agreeUpToCase agree plain
      have writtenEnding : written.toList.getLast? ≠ some '_' := by
        rwa [ne_eq, ← getLast?_eq_underscore_iff, agree, getLast?_eq_underscore_iff]
      have before : beforeSuffix (written ++ "__" ++ suffix).toList = written.toList := by
        rw [String.toList_append, String.toList_append, List.append_assoc]
        exact beforeSuffix_append_suffix writtenPlain writtenEnding suffix.toList
      rw [of?_eq_some_iff, before]
      refine ⟨?_, (ofString_eq_of_agreeUpToCase agree).symm⟩
      rw [← Bool.not_eq_true]
      intro only
      rw [beforeSuffix_of_isOnlySuffix only] at before
      have empty : base.toList.map Char.toLower = [] := by
        rw [← agree, ← before, List.map_nil]
      exact named (String.toList_eq_nil_iff.mp (List.map_eq_nil_iff.mp empty))

end NameKey

/-! ### Resolutions under other spellings -/

namespace ResolutionError

/-- The same error for a function invoked by another name. -/
def invokedAs (name : String) : ResolutionError → ResolutionError
  | noMatchingCallSite _ key => noMatchingCallSite name key
  | error => error

/-- The function that an error about an argument reports. -/
def function? : ResolutionError → Option String
  | argumentOutOfRange function _ _ => some function
  | notDictionaryEncoded function _ _ => some function
  | _ => none

/-- The same error about an argument of another function. -/
def reportedFor (name : String) : ResolutionError → ResolutionError
  | argumentOutOfRange _ argument arity => argumentOutOfRange name argument arity
  | notDictionaryEncoded _ argument found => notDictionaryEncoded name argument found
  | error => error

end ResolutionError

namespace FunctionCall

def renamed (name : String) (call : FunctionCall) : FunctionCall := { call with name }

theorem function?_bindingFailure (call : FunctionCall) (argument : Nat) :
    (call.bindingFailure argument).function? = some call.name := by
  unfold bindingFailure
  cases call.arguments[argument]? <;> rfl

theorem bindingFailure_renamed (name : String) (call : FunctionCall) (argument : Nat) :
    (call.renamed name).bindingFailure argument =
      (call.bindingFailure argument).reportedFor name := by
  unfold bindingFailure renamed
  cases call.arguments[argument]? <;> rfl

theorem invokedAs_bindingFailure (name : String) (call : FunctionCall) (argument : Nat) :
    (call.bindingFailure argument).invokedAs name = call.bindingFailure argument := by
  unfold bindingFailure
  cases call.arguments[argument]? <;> rfl

end FunctionCall

namespace Plan

theorem verdict_invokedAs (first second : String) (key : NameKey) (argument : Nat)
    (calls : List FunctionCall) :
    verdict second key argument calls =
      (verdict first key argument calls).mapError (.invokedAs second) := by
  cases calls with
  | nil => rfl
  | cons call calls =>
      simp only [verdict]
      cases (call :: calls).findSome? (·.boundDictionary? argument) with
      | some dictionary => rfl
      | none => exact congrArg Except.error (call.invokedAs_bindingFailure second argument).symm

/-- Renaming one of the calls that decide changes at most the function that an
error reports. -/
theorem verdict_renamed (name : String) (key : NameKey) (argument : Nat)
    (earlier later : List FunctionCall) (call : FunctionCall) (other : String) :
    verdict name key argument (earlier ++ call.renamed other :: later) =
        verdict name key argument (earlier ++ call :: later) ∨
      ∃ error : ResolutionError, error.function? = some call.name ∧
        verdict name key argument (earlier ++ call :: later) = .error error ∧
        verdict name key argument (earlier ++ call.renamed other :: later) =
          .error (error.reportedFor other) := by
  have bound : (call.renamed other).boundDictionary? argument =
      call.boundDictionary? argument := rfl
  have same : (earlier ++ call.renamed other :: later).findSome? (·.boundDictionary? argument) =
      (earlier ++ call :: later).findSome? (·.boundDictionary? argument) := by
    simp only [List.findSome?_append, List.findSome?_cons, bound]
  cases earlier with
  | cons first earlier =>
      left
      simp only [List.cons_append] at same ⊢
      simp only [verdict, same]
  | nil =>
      simp only [List.nil_append] at same ⊢
      simp only [verdict, same]
      cases (call :: later).findSome? (·.boundDictionary? argument) with
      | some dictionary => exact .inl rfl
      | none =>
          refine .inr ⟨call.bindingFailure argument, call.function?_bindingFailure argument, rfl,
            ?_⟩
          rw [call.bindingFailure_renamed]

/-- The call sites of a plan around one of them. -/
theorem exists_callSites_eq (before after : List Expression) (type : SqlType)
    (arguments : List Expression) :
    ∃ earlier later, ∀ name, callSites ⟨before ++ .call name type arguments :: after⟩ =
      earlier ++ (before.length, ⟨name, type, arguments⟩) :: later := by
  refine ⟨callSites ⟨before⟩, (after.zipIdx (before.length + 1)).filterMap fun entry =>
    entry.1.call?.map fun call => (entry.2, call), fun name => ?_⟩
  simp [callSites, List.zipIdx_append, Expression.call?]

end Plan

namespace CallSiteIndex

theorem outcome_resolve_of_key (plan : Plan) {name : String} {key : NameKey}
    (keyed : NameKey.of? name = some key) (arity : Option Nat) (argument : Nat) :
    ((ofPlan plan).resolve name arity argument).outcome =
      match (ofPlan plan).malformedFirst?
          (plan.callSites.filter fun site => site.2.answersTo key arity) with
      | some error => .error error
      | none => Plan.verdict name key argument
          ((plan.callSites.filter fun site => site.2.answersTo key arity).map Prod.snd) := by
  rw [resolve_of_key plan keyed]
  exact outcome_select _ name key argument _

/-- What stops a scan reports a malformed name. -/
theorem exists_of_malformedFirst?_ofPlan {plan : Plan} {candidates : List (Nat × FunctionCall)}
    {error : ResolutionError}
    (stopped : (ofPlan plan).malformedFirst? candidates = some error) :
    ∃ name, error = .emptyFunctionName name := by
  unfold malformedFirst? at stopped
  rw [malformed_ofPlan] at stopped
  cases found : plan.callSites.find? isMalformed with
  | none => simp [found] at stopped
  | some site =>
      refine ⟨site.2.name, ?_⟩
      rw [found, Option.map_some, malformedEntry] at stopped
      cases candidates with
      | nil => exact (Option.some.inj stopped).symm
      | cons first others =>
          simp only [Option.ite_none_right_eq_some, Option.some.injEq] at stopped
          exact stopped.2.symm

/-- Invoked by another name with the same key, a function is resolved alike. -/
theorem outcome_resolve_invokedAs (plan : Plan) {first second : String} {key : NameKey}
    (one : NameKey.of? first = some key) (two : NameKey.of? second = some key)
    (arity : Option Nat) (argument : Nat) :
    ((ofPlan plan).resolve second arity argument).outcome =
      ((ofPlan plan).resolve first arity argument).outcome.mapError (.invokedAs second) := by
  rw [outcome_resolve_of_key plan one, outcome_resolve_of_key plan two]
  cases stopped : (ofPlan plan).malformedFirst?
      (plan.callSites.filter fun site => site.2.answersTo key arity) with
  | none => exact Plan.verdict_invokedAs first second key argument _
  | some error =>
      obtain ⟨name, rfl⟩ := exists_of_malformedFirst?_ofPlan stopped
      rfl

/-- Whether a malformed call site comes first depends on the positions alone. -/
theorem malformedFirst?_congr {index other : CallSiteIndex}
    (malformed : index.malformed = other.malformed)
    {candidates others : List (Nat × FunctionCall)}
    (positions : candidates.map Prod.fst = others.map Prod.fst) :
    index.malformedFirst? candidates = other.malformedFirst? others := by
  unfold malformedFirst?
  rw [malformed]
  cases candidates with
  | nil =>
      rw [List.map_nil, eq_comm, List.map_eq_nil_iff] at positions
      rw [positions]
  | cons first candidates =>
      obtain ⟨⟨position, call⟩, more, rfl, same, -⟩ := List.map_eq_cons_iff.mp positions.symm
      obtain ⟨place, found⟩ := first
      subst same
      cases other.malformed <;> rfl

/-- A call site that declares another name is sought where the first one was. -/
theorem filter_respelled {first second : String} (before after : List Expression)
    (type : SqlType) (arguments : List Expression) (sought : FunctionCall → Bool)
    (alike : sought ⟨second, type, arguments⟩ = sought ⟨first, type, arguments⟩) :
    let plan : Plan := ⟨before ++ .call first type arguments :: after⟩
    let respelled : Plan := ⟨before ++ .call second type arguments :: after⟩
    respelled.callSites.filter (fun site => sought site.2) =
        plan.callSites.filter (fun site => sought site.2) ∨
      ∃ earlier later,
        plan.callSites.filter (fun site => sought site.2) =
          earlier ++ (before.length, ⟨first, type, arguments⟩) :: later ∧
        respelled.callSites.filter (fun site => sought site.2) =
          earlier ++ (before.length, ⟨second, type, arguments⟩) :: later := by
  intro plan respelled
  obtain ⟨earlier, later, sites⟩ := Plan.exists_callSites_eq before after type arguments
  simp only [plan, respelled, sites, List.filter_append, List.filter_cons, alike]
  cases sought ⟨first, type, arguments⟩ with
  | false => exact .inl rfl
  | true => exact .inr ⟨_, _, rfl, rfl⟩

section Respelled

variable {first second : String} {key : NameKey} (one : NameKey.of? first = some key)
  (two : NameKey.of? second = some key) (before after : List Expression) (type : SqlType)
  (arguments : List Expression)

include one two

theorem malformed_respelled :
    (ofPlan ⟨before ++ .call second type arguments :: after⟩).malformed =
      (ofPlan ⟨before ++ .call first type arguments :: after⟩).malformed := by
  obtain ⟨earlier, later, sites⟩ := Plan.exists_callSites_eq before after type arguments
  have wellFormed {name : String} (keyed : NameKey.of? name = some key) :
      isMalformed (before.length, ⟨name, type, arguments⟩) = false :=
    isMalformed_eq_false_of_key keyed
  simp only [malformed_ofPlan, sites, List.find?_append, List.find?_cons, wellFormed one,
    wellFormed two]

/-- If a call site declares another name with the same key, every resolution has
the same outcome, apart from the function that an error reports. -/
theorem outcome_resolve_respelled (name : String) (arity : Option Nat) (argument : Nat) :
    let plan : Plan := ⟨before ++ .call first type arguments :: after⟩
    let respelled : Plan := ⟨before ++ .call second type arguments :: after⟩
    ((ofPlan respelled).resolve name arity argument).outcome =
        ((ofPlan plan).resolve name arity argument).outcome ∨
      ∃ error : ResolutionError, error.function? = some first ∧
        ((ofPlan plan).resolve name arity argument).outcome = .error error ∧
        ((ofPlan respelled).resolve name arity argument).outcome =
          .error (error.reportedFor second) := by
  intro plan respelled
  cases keyed : NameKey.of? name with
  | none => exact .inl (by simp [resolve, NameKey.of_of?_none keyed])
  | some sought =>
      have malformed := malformed_respelled one two before after type arguments
      have alike : FunctionCall.answersTo sought arity ⟨second, type, arguments⟩ =
          FunctionCall.answersTo sought arity ⟨first, type, arguments⟩ := by
        simp only [FunctionCall.answersTo, one, two]
      rw [outcome_resolve_of_key plan keyed, outcome_resolve_of_key respelled keyed]
      rcases filter_respelled before after type arguments (FunctionCall.answersTo sought arity)
          alike with same | ⟨earlier, later, written, rewritten⟩
      · left
        rw [same, malformedFirst?_congr malformed rfl]
      · have stops : (ofPlan respelled).malformedFirst?
            (earlier ++ (before.length, ⟨second, type, arguments⟩) :: later) =
              (ofPlan plan).malformedFirst?
                (earlier ++ (before.length, ⟨first, type, arguments⟩) :: later) :=
          malformedFirst?_congr malformed (by simp)
        rw [written, rewritten, stops]
        cases (ofPlan plan).malformedFirst?
            (earlier ++ (before.length, ⟨first, type, arguments⟩) :: later) with
        | some error => exact .inl rfl
        | none =>
            simp only [List.map_append, List.map_cons]
            exact Plan.verdict_renamed name sought argument _ _ ⟨first, type, arguments⟩ second

/-- If a call site declares another name with the same key, it is listed where it
was. -/
theorem callSites_respelled (name : String) :
    let plan : Plan := ⟨before ++ .call first type arguments :: after⟩
    let respelled : Plan := ⟨before ++ .call second type arguments :: after⟩
    (ofPlan respelled).callSites name = (ofPlan plan).callSites name ∨
      ∃ earlier later,
        (ofPlan plan).callSites name = .ok (earlier ++ ⟨first, type, arguments⟩ :: later) ∧
        (ofPlan respelled).callSites name =
          .ok (earlier ++ ⟨second, type, arguments⟩ :: later) := by
  intro plan respelled
  cases keyed : NameKey.of? name with
  | none => exact .inl (by simp [callSites, NameKey.of_of?_none keyed])
  | some sought =>
      have alike : (NameKey.of? second == some sought) = (NameKey.of? first == some sought) := by
        rw [one, two]
      rw [callSites_of_key plan keyed, callSites_of_key respelled keyed]
      rcases filter_respelled before after type arguments
          (fun call => NameKey.of? call.name == some sought) alike with
        same | ⟨earlier, later, written, rewritten⟩
      · exact .inl (congrArg (fun sites => Except.ok (sites.map Prod.snd)) same)
      · refine .inr ⟨earlier.map Prod.snd, later.map Prod.snd, ?_, ?_⟩
        · exact congrArg Except.ok ((congrArg (List.map Prod.snd) written).trans (by simp))
        · exact congrArg Except.ok ((congrArg (List.map Prod.snd) rewritten).trans (by simp))

end Respelled

/-- All spellings of a name have the same key.  Whichever of them a function is
invoked by, it is resolved to the same dictionary and has the same call sites;
failing, it fails alike, and only the error that nothing matches reports the
spelling used.  Whichever of them a call site declares, every function is resolved
to the same dictionary; failing, it fails alike, and at most the call site that
the error is about is reported under the other spelling. -/
theorem spellings_are_interchangeable {base first second : String} (named : base ≠ "")
    (plain : ¬ ['_', '_'] <:+: base.toList) (one : NameKey.IsSpelling base first)
    (two : NameKey.IsSpelling base second) :
    (∃ key, NameKey.of first = .ok key ∧ NameKey.of second = .ok key) ∧
    (∀ plan arity argument,
      ((ofPlan plan).resolve second arity argument).outcome =
          ((ofPlan plan).resolve first arity argument).outcome.mapError (.invokedAs second) ∧
        ((ofPlan plan).resolve first arity argument).outcome =
          ((ofPlan plan).resolve second arity argument).outcome.mapError (.invokedAs first)) ∧
    (∀ plan, (ofPlan plan).callSites second = (ofPlan plan).callSites first) ∧
    ∀ before after type arguments,
      let plan : Plan := ⟨before ++ .call first type arguments :: after⟩
      let respelled : Plan := ⟨before ++ .call second type arguments :: after⟩
      (∀ name arity argument,
        ((ofPlan respelled).resolve name arity argument).outcome =
            ((ofPlan plan).resolve name arity argument).outcome ∨
          ∃ error : ResolutionError, error.function? = some first ∧
            ((ofPlan plan).resolve name arity argument).outcome = .error error ∧
            ((ofPlan respelled).resolve name arity argument).outcome =
              .error (error.reportedFor second)) ∧
      ∀ name, (ofPlan respelled).callSites name = (ofPlan plan).callSites name ∨
        ∃ earlier later,
          (ofPlan plan).callSites name = .ok (earlier ++ ⟨first, type, arguments⟩ :: later) ∧
          (ofPlan respelled).callSites name =
            .ok (earlier ++ ⟨second, type, arguments⟩ :: later) := by
  have firstKey := NameKey.of?_of_isSpelling named plain one
  have secondKey := NameKey.of?_of_isSpelling named plain two
  refine ⟨⟨_, NameKey.of_of?_some firstKey, NameKey.of_of?_some secondKey⟩, ?_, ?_, ?_⟩
  · intro plan arity argument
    exact ⟨outcome_resolve_invokedAs plan firstKey secondKey arity argument,
      outcome_resolve_invokedAs plan secondKey firstKey arity argument⟩
  · intro plan
    rw [callSites_of_key plan firstKey, callSites_of_key plan secondKey]
  · intro before after type arguments plan respelled
    exact ⟨outcome_resolve_respelled firstKey secondKey before after type arguments,
      callSites_respelled firstKey secondKey before after type arguments⟩

/-- The suffix starts at the first of three underscores, and the sigma before it
ends its word whatever the case of the letters before.  Under both spellings the
function is bound to the dictionary of its argument, whichever spelling its call site
declares. -/
theorem spellings_are_interchangeable_of_final_sigma :
    let city : Expression := .column (some "t") "city" (.dictionaryText 4)
    let plan : Plan := ⟨[city, .call "NAΣ___x" .text [city]]⟩
    let respelled : Plan := ⟨[city, .call "nAΣ" .text [city]]⟩
    (∃ key, NameKey.of "NAΣ___x" = .ok key ∧ NameKey.of "nAΣ" = .ok key) ∧
      ((ofPlan plan).resolve "NAΣ___x" none 0).outcome = .ok 4 ∧
      ((ofPlan plan).resolve "nAΣ" none 0).outcome = .ok 4 ∧
      ((ofPlan plan).resolve "NAΣ___x" (some 2) 0).outcome =
        .error (.noMatchingCallSite "NAΣ___x" ⟨"naς"⟩) ∧
      ((ofPlan plan).resolve "nAΣ" (some 2) 0).outcome =
        .error (.noMatchingCallSite "nAΣ" ⟨"naς"⟩) ∧
      (ofPlan plan).callSites "nAΣ" = (ofPlan plan).callSites "NAΣ___x" ∧
      ((ofPlan respelled).resolve "NAΣ___x" none 0).outcome = .ok 4 := by
  intro city plan respelled
  have one : NameKey.IsSpelling "naΣ" "NAΣ___x" :=
    .suffixed "_x" (by decide : NameKey.AgreeUpToCase "NAΣ" "naΣ") (by decide)
  have two : NameKey.IsSpelling "naΣ" "nAΣ" := .plain (by decide)
  obtain ⟨keys, outcomes, sites, declared⟩ :=
    spellings_are_interchangeable (by decide) (by decide) one two
  have bound : ((ofPlan plan).resolve "NAΣ___x" none 0).outcome = .ok 4 := by decide +kernel
  have failed : ((ofPlan plan).resolve "NAΣ___x" (some 2) 0).outcome =
      .error (.noMatchingCallSite "NAΣ___x" ⟨"naς"⟩) := by decide +kernel
  refine ⟨keys, bound, ?_, failed, ?_, sites plan, ?_⟩
  · rw [(outcomes plan none 0).1, bound]
    rfl
  · rw [(outcomes plan (some 2) 0).1, failed]
    rfl
  · rcases (declared [city] [] .text [city]).1 "NAΣ___x" none 0 with same | ⟨error, -, fails, -⟩
    · exact same.trans bound
    · cases fails.symm.trans bound

end CallSiteIndex

end RowFunctions

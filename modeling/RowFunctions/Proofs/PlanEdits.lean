import Mathlib.Logic.Relation
import RowFunctions.Proofs.GrowingPlans

/-!
# What of a plan matters to a resolution

A resolution of an invoked name depends on the calls with the key of the name and on
the malformed calls, in plan order, and of these on nothing but the name and the types
of the arguments: their signatures.  Where the calls stand among other targets, their
result types and what their arguments are made of do not matter, and neither do calls
inside arguments, whatever their names.

`Plan.Edit` is one change of a plan of this kind.  Each keeps the signatures that
matter, hence so does any sequence of them.
-/

namespace RowFunctions

/-- A target that a name has nothing to do with: no call, or a call with another key. -/
def Expression.IsUnrelated (name : String) (target : Expression) : Prop :=
  ∀ call, target.call? = some call →
    ∃ key, NameKey.of? call.name = some key ∧ NameKey.of? name ≠ some key

/-- One change of a plan beside what matters to an invoked name.  A target is moved by
removing it and inserting it elsewhere. -/
inductive Plan.Edit (name : String) : Plan → Plan → Prop
  | insert (before after : List Expression) (target : Expression)
      (unrelated : target.IsUnrelated name) :
      Edit name ⟨before ++ after⟩ ⟨before ++ target :: after⟩
  | remove (before after : List Expression) (target : Expression)
      (unrelated : target.IsUnrelated name) :
      Edit name ⟨before ++ target :: after⟩ ⟨before ++ after⟩
  | retype (before after : List Expression) (function : String) (type other : SqlType)
      (arguments : List Expression) :
      Edit name ⟨before ++ .call function type arguments :: after⟩
        ⟨before ++ .call function other arguments :: after⟩
  | replace (before after : List Expression) (function : String) (type : SqlType)
      (earlier later : List Expression) (argument other : Expression)
      (alike : other.type = argument.type) :
      Edit name ⟨before ++ .call function type (earlier ++ argument :: later) :: after⟩
        ⟨before ++ .call function type (earlier ++ other :: later) :: after⟩

namespace FunctionCall

/-- The name of a call and the types of its arguments. -/
def signature (call : FunctionCall) : String × List SqlType :=
  (call.name, call.arguments.map Expression.type)

/-- Whether a call can stop or decide a search for an invoked name. -/
def concerns (name : String) (call : FunctionCall) : Bool :=
  decide (NameKey.IsMalformed call.name) || NameKey.of? call.name == NameKey.of? name

theorem answersTo_eq_of_signature (call : FunctionCall) (key : NameKey) (arity : Option Nat) :
    call.answersTo key arity =
      (NameKey.of? call.signature.1 == some key &&
        arity.all (· == call.signature.2.length)) := by
  simp [answersTo, signature]

theorem boundDictionary?_eq_of_signature (call : FunctionCall) (argument : Nat) :
    call.boundDictionary? argument = (call.signature.2[argument]?).bind SqlType.dictionary? := by
  simp [boundDictionary?, signature, Option.bind_map]

theorem bindingFailure_eq_of_signature (call : FunctionCall) (argument : Nat) :
    call.bindingFailure argument =
      match call.signature.2[argument]? with
      | none => .argumentOutOfRange call.signature.1 argument call.signature.2.length
      | some type => .notDictionaryEncoded call.signature.1 argument type.display := by
  simp only [bindingFailure, signature, List.getElem?_map, List.length_map]
  cases call.arguments[argument]? <;> rfl

theorem concerns_eq_of_signature (name : String) (call : FunctionCall) :
    call.concerns name =
      (decide (NameKey.IsMalformed call.signature.1) ||
        NameKey.of? call.signature.1 == NameKey.of? name) :=
  rfl

theorem concerns_of_answersTo {name : String} {key : NameKey} (keyed : NameKey.of? name = some key)
    {arity : Option Nat} {call : FunctionCall} (answers : call.answersTo key arity = true) :
    call.concerns name = true := by
  rw [answersTo, Bool.and_eq_true, beq_iff_eq] at answers
  simp [concerns, answers.1, keyed]

end FunctionCall

namespace Plan

/-- The signatures of the calls that matter to an invoked name, in plan order. -/
def signatures (plan : Plan) (name : String) : List (String × List SqlType) :=
  (plan.calls.filter (FunctionCall.concerns name)).map FunctionCall.signature

section Signatures

variable (name : String) (key : NameKey) (arity : Option Nat) (argument : Nat)

theorem verdict_eq_of_signatures {calls others : List FunctionCall}
    (same : calls.map FunctionCall.signature = others.map FunctionCall.signature) :
    verdict name key argument calls = verdict name key argument others := by
  have bound : calls.findSome? (·.boundDictionary? argument) =
      others.findSome? (·.boundDictionary? argument) := by
    have moved := congrArg
      (List.findSome? fun known : String × List SqlType =>
        (known.2[argument]?).bind SqlType.dictionary?) same
    simpa only [List.findSome?_map, Function.comp_def,
      ← FunctionCall.boundDictionary?_eq_of_signature] using moved
  cases calls with
  | nil =>
      rw [List.map_nil, eq_comm, List.map_eq_nil_iff] at same
      rw [same]
  | cons first calls =>
      cases others with
      | nil => simp at same
      | cons second others =>
          have heads : first.signature = second.signature := by
            simp only [List.map_cons, List.cons.injEq] at same
            exact same.1
          rw [verdict, verdict, bound, first.bindingFailure_eq_of_signature,
            second.bindingFailure_eq_of_signature, heads]

/-- A search looks at nothing but signatures. -/
theorem search_eq_of_signatures {calls others : List FunctionCall}
    (same : calls.map FunctionCall.signature = others.map FunctionCall.signature) :
    search name key arity argument calls = search name key arity argument others := by
  induction calls generalizing others with
  | nil =>
      rw [List.map_nil, eq_comm, List.map_eq_nil_iff] at same
      rw [same]
  | cons call calls ih =>
      cases others with
      | nil => simp at same
      | cons other others =>
          obtain ⟨heads, tails⟩ : call.signature = other.signature ∧
              calls.map FunctionCall.signature = others.map FunctionCall.signature := by
            simpa only [List.map_cons, List.cons.injEq] using same
          have names : call.name = other.name := congrArg Prod.fst heads
          have answers : call.answersTo key arity = other.answersTo key arity := by
            rw [call.answersTo_eq_of_signature, other.answersTo_eq_of_signature, heads]
          have deciding : (call :: calls.filter (FunctionCall.answersTo key arity)).map
              FunctionCall.signature =
                (other :: others.filter (FunctionCall.answersTo key arity)).map
                  FunctionCall.signature := by
            have filtered := congrArg
              (List.filter fun known : String × List SqlType =>
                NameKey.of? known.1 == some key && arity.all (· == known.2.length)) tails
            simp only [List.filter_map, Function.comp_def,
              ← FunctionCall.answersTo_eq_of_signature] at filtered
            rw [List.map_cons, List.map_cons, heads, filtered]
          rw [search, search, names, answers, ih tails,
            verdict_eq_of_signatures name key argument deciding]

/-- A search passes over the calls that do not concern the name. -/
theorem search_filter_concerns (keyed : NameKey.of? name = some key)
    (calls : List FunctionCall) :
    search name key arity argument (calls.filter (FunctionCall.concerns name)) =
      search name key arity argument calls := by
  induction calls with
  | nil => rfl
  | cons call calls ih =>
      cases concerned : call.concerns name with
      | true =>
          have deciding : (calls.filter (FunctionCall.concerns name)).filter
              (FunctionCall.answersTo key arity) =
                calls.filter (FunctionCall.answersTo key arity) := by
            rw [List.filter_filter]
            apply List.filter_congr
            intro other _
            cases answers : other.answersTo key arity with
            | false => rfl
            | true => rw [FunctionCall.concerns_of_answersTo keyed answers, Bool.and_self]
          rw [List.filter_cons_of_pos concerned, search, search, deciding, ih]
      | false =>
          have wellFormed : ¬ NameKey.IsMalformed call.name := by
            intro malformed
            simp [FunctionCall.concerns, malformed] at concerned
          have silent : ¬ call.answersTo key arity = true := by
            intro answers
            rw [FunctionCall.concerns_of_answersTo keyed answers] at concerned
            contradiction
          rw [List.filter_cons_of_neg (by simp [concerned]), ih]
          conv_rhs => rw [search, if_neg wellFormed, if_neg silent]

end Signatures

theorem concerns_eq_false_of_isUnrelated {name : String} {target : Expression}
    (unrelated : target.IsUnrelated name) {call : FunctionCall}
    (called : target.call? = some call) : call.concerns name = false := by
  obtain ⟨key, keyed, other⟩ := unrelated call called
  have wellFormed : ¬ NameKey.IsMalformed call.name := by
    rw [← NameKey.of?_eq_none_iff, keyed]
    exact nofun
  simp [FunctionCall.concerns, wellFormed, keyed, Ne.symm other]

theorem signatures_insert {name : String} (before after : List Expression) {target : Expression}
    (unrelated : target.IsUnrelated name) :
    signatures ⟨before ++ target :: after⟩ name = signatures ⟨before ++ after⟩ name := by
  unfold signatures calls
  rw [List.filterMap_append, List.filterMap_append]
  cases called : target.call? with
  | none => rw [List.filterMap_cons_none called]
  | some call =>
      have unconcerned := concerns_eq_false_of_isUnrelated unrelated called
      rw [List.filterMap_cons_some called, List.filter_append, List.filter_append,
        List.filter_cons_of_neg (by simp [unconcerned])]

theorem signatures_exchange (name : String) (before after : List Expression)
    {target other : Expression} {call replaced : FunctionCall}
    (called : target.call? = some call) (calledThen : other.call? = some replaced)
    (same : call.signature = replaced.signature) :
    signatures ⟨before ++ target :: after⟩ name = signatures ⟨before ++ other :: after⟩ name := by
  have concerned : call.concerns name = replaced.concerns name := by
    rw [call.concerns_eq_of_signature, replaced.concerns_eq_of_signature, same]
  unfold signatures calls
  rw [List.filterMap_append, List.filterMap_append, List.filterMap_cons_some called,
    List.filterMap_cons_some calledThen, List.filter_append, List.filter_append, List.map_append,
    List.map_append]
  cases decided : replaced.concerns name with
  | false =>
      rw [List.filter_cons_of_neg (by simp [concerned, decided]),
        List.filter_cons_of_neg (by simp [decided])]
  | true =>
      rw [List.filter_cons_of_pos (by rw [concerned, decided]), List.filter_cons_of_pos decided,
        List.map_cons, List.map_cons, same]

/-- An edit keeps the signatures that matter. -/
theorem Edit.signatures_eq {name : String} {plan edited : Plan} (edit : Edit name plan edited) :
    edited.signatures name = plan.signatures name := by
  cases edit with
  | insert before after target unrelated => exact signatures_insert before after unrelated
  | remove before after target unrelated => exact (signatures_insert before after unrelated).symm
  | retype before after function type other arguments =>
      exact signatures_exchange name before after rfl rfl rfl
  | replace before after function type earlier later argument other alike =>
      apply signatures_exchange name before after rfl rfl
      simp [FunctionCall.signature, alike]

theorem signatures_eq_of_edits {name : String} {plan edited : Plan}
    (edits : Relation.ReflTransGen (Edit name) plan edited) :
    edited.signatures name = plan.signatures name := by
  induction edits with
  | refl => rfl
  | tail _ edit ih => exact edit.signatures_eq.trans ih

end Plan

namespace CallSiteIndex

/-- Plans with the same signatures for a name resolve it alike. -/
theorem outcome_resolve_eq_of_signatures {plan other : Plan} {name : String}
    (same : plan.signatures name = other.signatures name) (arity : Option Nat) (argument : Nat) :
    ((ofPlan plan).resolve name arity argument).outcome =
      ((ofPlan other).resolve name arity argument).outcome := by
  cases keyed : NameKey.of? name with
  | none => simp [resolve, NameKey.of_of?_none keyed]
  | some key =>
      rw [outcome_resolve_eq_search plan keyed, outcome_resolve_eq_search other keyed,
        ← Plan.search_filter_concerns name key arity argument keyed plan.calls,
        ← Plan.search_filter_concerns name key arity argument keyed other.calls]
      exact Plan.search_eq_of_signatures name key arity argument same

/-- However a plan is edited beside the calls that matter to a name, and whatever
expressions of the same types take the places of arguments, the name is resolved
alike: to the same dictionary or with the same failure. -/
theorem edits_keep_answers {name : String} {plan edited : Plan}
    (edits : Relation.ReflTransGen (Plan.Edit name) plan edited) (arity : Option Nat)
    (argument : Nat) :
    ((ofPlan edited).resolve name arity argument).outcome =
      ((ofPlan plan).resolve name arity argument).outcome :=
  outcome_resolve_eq_of_signatures (Plan.signatures_eq_of_edits edits) arity argument

/-- Another call comes to stand in front, the result type changes, and the column gives
way to a malformed call around a call with the name sought. -/
theorem edits_keep_answers_around_nested_call :
    let plan : Plan := ⟨[.call "pad" .text [.column none "a" (.dictionaryText 2)]]⟩
    let edited : Plan := ⟨[.call "trim" .text [], .call "pad" (.scalar .int)
      [.call "__pad" (.dictionaryText 2) [.call "pad" .text []]]]⟩
    Relation.ReflTransGen (Plan.Edit "PAD__n") plan edited ∧
      ((ofPlan edited).resolve "PAD__n" none 0).outcome = .ok 2 := by
  intro plan edited
  let column : Expression := .column none "a" (.dictionaryText 2)
  let nested : Expression := .call "__pad" (.dictionaryText 2) [.call "pad" .text []]
  let trim : Expression := .call "trim" .text []
  have unrelated : trim.IsUnrelated "PAD__n" := by
    intro call called
    obtain rfl := Option.some.inj called
    exact ⟨⟨"trim"⟩, by decide +kernel, by decide +kernel⟩
  have edits : Relation.ReflTransGen (Plan.Edit "PAD__n") plan edited := by
    refine .head (.insert [] [.call "pad" .text [column]] trim unrelated) ?_
    refine .head (.retype [trim] [] "pad" .text (.scalar .int) [column]) ?_
    exact .single (.replace [trim] [] "pad" (.scalar .int) [] [] column nested rfl)
  exact ⟨edits, (edits_keep_answers edits none 0).trans (by decide +kernel)⟩

end CallSiteIndex

end RowFunctions

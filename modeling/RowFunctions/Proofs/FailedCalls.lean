import RowFunctions.Proofs.ProxyIdentities
import RowFunctions.Proofs.SessionHistories

/-!
# Failed calls

A call that fails leaves a session as it was, with one exception.  A manager asks
for the proxy of a dictionary before it looks at the identifiers to decode, so that
a failed decoding may register a proxy, which has no transient strings.  Decoding
several identifiers fails as decoding them one after the other does; a manager that
is given none still fails for an unknown dictionary.  Interning into a dictionary of
the catalog never fails before the identifiers run out.
-/

namespace RowFunctions

/-- Whether an answer reports a failure. -/
def SessionAnswer.isFailure : SessionAnswer → Bool
  | .failed _ => true
  | _ => false

namespace DictionaryProxy

theorem error_of_getString {proxy : DictionaryProxy} {id : StringId} {error : DictionaryError}
    (failed : proxy.getString id = .error error) :
    error = .unknownString proxy.dictionary.id id ∨
      error = .invalidString proxy.dictionary.id id := by
  unfold getString at failed
  by_cases nonneg : 0 ≤ id
  · rw [if_pos nonneg] at failed
    cases found : proxy.dictionary.getString? id with
    | some value => simp [found] at failed
    | none =>
        rw [found] at failed
        exact .inl (Except.error.inj failed).symm
  · rw [if_neg nonneg] at failed
    cases read : StringId.transientIndex? id with
    | none =>
        rw [read] at failed
        exact .inr (Except.error.inj failed).symm
    | some index =>
        cases found : proxy.transients.getAt? index with
        | some value => simp [read, found] at failed
        | none =>
            simp only [read, found] at failed
            exact .inl (Except.error.inj failed).symm

/-- Decoding several identifiers fails as the first one does that cannot be decoded. -/
theorem getStrings_eq_error_iff (proxy : DictionaryProxy) (ids : List StringId)
    (error : DictionaryError) :
    proxy.getStrings ids = .error error ↔
      ∃ id, (ids.find? fun id => !(proxy.getString id).isOk) = some id ∧
        proxy.getString id = .error error := by
  induction ids with
  | nil => simp [getStrings]
  | cons id ids ih =>
      rw [getStrings, List.find?_cons]
      cases decoded : proxy.getString id with
      | error first => simp [Except.isOk, Except.toBool, decoded]
      | ok value =>
          simp only [Except.isOk, Except.toBool, Bool.not_true] at ih ⊢
          rw [← ih]
          cases proxy.getStrings ids <;> simp

theorem error_of_intern {proxy : DictionaryProxy} {value : String} {error : DictionaryError}
    (failed : (proxy.intern value).1 = .error error) :
    error = .noIdsLeft proxy.dictionary.id := by
  cases known : proxy.getId? value with
  | some id => simp [intern_of_known known] at failed
  | none =>
      cases next : StringId.ofTransientIndex? proxy.transientCount with
      | some id => simp [intern_of_unknown known next] at failed
      | none =>
          simp only [intern, known, next, Except.error.injEq] at failed
          exact failed.symm

theorem error_of_internAll {proxy : DictionaryProxy} {values : List String}
    {error : DictionaryError} (failed : (proxy.internAll values).1 = .error error) :
    error = .noIdsLeft proxy.dictionary.id := by
  induction values generalizing proxy with
  | nil => simp [internAll] at failed
  | cons value values ih =>
      cases interned : (proxy.intern value).1 with
      | error first =>
          rw [internAll_cons_of_error interned] at failed
          rw [← Except.error.inj failed]
          exact error_of_intern interned
      | ok id =>
          rw [internAll_cons_of_ok interned] at failed
          cases rest : ((proxy.intern value).2.internAll values).1 with
          | ok ids => simp [rest, Except.map] at failed
          | error later =>
              simp only [rest, Except.map, Except.error.injEq] at failed
              subst failed
              rw [ih rest, dictionary_intern]

/-- A call that fails on a proxy has met an identifier without a string, and then it
has changed nothing, or the identifiers have run out. -/
theorem perform_of_error {proxy : DictionaryProxy} {call : ProxyCall} {error : DictionaryError}
    (failed : (proxy.perform call).1 = .error error) :
    (proxy.perform call).2 = proxy ∧
        (∃ id, error = .unknownString proxy.dictionary.id id ∨
          error = .invalidString proxy.dictionary.id id) ∨
      error = .noIdsLeft proxy.dictionary.id := by
  cases call with
  | string id =>
      cases decoded : proxy.getString id with
      | ok value => simp [perform, decoded, Except.map] at failed
      | error first =>
          simp only [perform, decoded, Except.map, Except.error.injEq] at failed
          exact .inl ⟨rfl, id, failed ▸ error_of_getString decoded⟩
  | strings ids =>
      cases decoded : proxy.getStrings ids with
      | ok values => simp [perform, decoded, Except.map] at failed
      | error first =>
          simp only [perform, decoded, Except.map, Except.error.injEq] at failed
          obtain ⟨id, -, found⟩ := (proxy.getStrings_eq_error_iff ids first).mp decoded
          exact .inl ⟨rfl, id, failed ▸ error_of_getString found⟩
  | idOf value => simp [perform] at failed
  | intern value =>
      cases interned : (proxy.intern value).1 with
      | ok id => simp [perform, interned, Except.map] at failed
      | error first =>
          simp only [perform, interned, Except.map, Except.error.injEq] at failed
          exact .inr (failed ▸ error_of_intern interned)
  | internAll values =>
      cases interned : (proxy.internAll values).1 with
      | ok ids => simp [perform, interned, Except.map] at failed
      | error first =>
          simp only [perform, interned, Except.map, Except.error.injEq] at failed
          exact .inr (failed ▸ error_of_internAll interned)

end DictionaryProxy

namespace QuerySession

/-! ### What a failed call leaves behind -/

/-- The session that a call opens: through a manager, a proxy of a dictionary of the
catalog is registered if there is none. -/
def openedFor (session : QuerySession) (managed : ManagedCall) : QuerySession :=
  match managed.call with
  | .onDictionary dictionary _ =>
      match session.registered? ownOwner dictionary, session.catalog.get? dictionary with
      | none, some stored =>
          { session with
            index := .ofPlan managed.plan
            registry := session.registry ++ [((ownOwner, dictionary), session.proxies.length)]
            proxies := session.proxies ++ [.ofDictionary stored] }
      | _, _ => { session with index := .ofPlan managed.plan }
  | _ => { session with index := .ofPlan managed.plan }

/-- A call that changes no proxy leaves its session as it is. -/
theorem apply_changes_self {session : QuerySession} {name : ProxyName} {proxy : DictionaryProxy}
    (present : session.proxy? name = some proxy) (plan : Plan)
    (reply : Except DictionaryError ProxyAnswer) :
    session.apply plan (.changes name proxy reply) =
      { session with index := .ofPlan plan } := by
  obtain ⟨bounded, same⟩ := List.getElem?_eq_some_iff.mp present
  rw [apply, ← same, List.set_getElem_self]

theorem answerOf_eq_failed_iff (reply : Except DictionaryError ProxyAnswer)
    (error : DictionaryError) :
    answerOf reply = .failed (.dictionary error) ↔ reply = .error error := by
  cases reply <;> simp [answerOf]

/-- A call that fails on an existing proxy leaves the session as it was, unless the
identifiers have run out. -/
theorem failed_callEffect {session : QuerySession} {name : ProxyName} {call : ProxyCall}
    {error : DictionaryError} {fresh : ProxyName}
    (failed : answerTo fresh (session.callEffect name call) = .failed (.dictionary error)) :
    ∃ proxy, session.proxy? name = some proxy ∧
      ((∃ id, error = .unknownString proxy.dictionary.id id ∨
            error = .invalidString proxy.dictionary.id id) ∧
          (∀ plan, session.apply plan (session.callEffect name call) =
            { session with index := .ofPlan plan }) ∨
        error = .noIdsLeft proxy.dictionary.id) := by
  unfold callEffect at failed ⊢
  cases present : session.proxy? name with
  | none => simp [present, answerTo] at failed
  | some proxy =>
      rw [present] at failed
      have refused := (answerOf_eq_failed_iff _ _).mp failed
      refine ⟨proxy, rfl, ?_⟩
      rcases DictionaryProxy.perform_of_error refused with ⟨same, unread⟩ | exhausted
      · refine .inl ⟨unread, fun plan => ?_⟩
        simp only [same]
        exact apply_changes_self present plan _
      · exact .inr exhausted

/-- A call on a dictionary fails without a trace if the catalog does not know the
dictionary.  If an identifier has no string, the call has opened the session and done
no more.  Otherwise the identifiers have run out. -/
theorem failed_cases {session : QuerySession} (wellRegistered : session.IsRegistered)
    {managed : ManagedCall} {error : DictionaryError}
    (failed : (session.performManaged managed).1 = .failed (.dictionary error)) :
    (∃ dictionary, error = .unknownDictionary dictionary ∧
      (session.performManaged managed).2 = { session with index := .ofPlan managed.plan }) ∨
    (∃ dictionary id,
      (error = .unknownString dictionary id ∨ error = .invalidString dictionary id) ∧
      (∀ other call, managed.call = .onDictionary other call → other = dictionary) ∧
      (session.performManaged managed).2 = session.openedFor managed) ∨
    ∃ dictionary, error = .noIdsLeft dictionary := by
  obtain ⟨plan, call⟩ := managed
  rw [performManaged_eq_apply] at failed ⊢
  have obtained (owner : OwnerName) (dictionary : DictionaryId) (withTransients : Bool)
      (failed : answerTo session.proxies.length
        (session.obtainEffect owner dictionary withTransients) = .failed (.dictionary error)) :
      error = .unknownDictionary dictionary ∧
        session.apply plan (session.obtainEffect owner dictionary withTransients) =
          { session with index := .ofPlan plan } := by
    rw [answerTo_obtainEffect] at failed
    cases known : session.catalog.get? dictionary with
    | none =>
        simp only [known, SessionAnswer.failed.injEq, QueryError.dictionary.injEq] at failed
        rw [obtainEffect, known]
        exact ⟨failed.symm, rfl⟩
    | some stored => simp [known] at failed
  cases call with
  | resolve name arity argument =>
      rw [effect] at failed
      cases resolved : ((CallSiteIndex.ofPlan plan).resolve name arity argument).outcome <;>
        simp [resolved, answerTo] at failed
  | onDictionary dictionary call =>
      simp only [effect, managerEffect, openedFor] at failed ⊢
      cases known : session.catalog.get? dictionary with
      | none =>
          simp only [known, answerTo, SessionAnswer.failed.injEq,
            QueryError.dictionary.injEq] at failed
          exact .inl ⟨dictionary, failed.symm, rfl⟩
      | some stored =>
          have same := id_of_get? known
          cases registered : session.registered? ownOwner dictionary with
          | some name =>
              simp only [known, registered] at failed
              obtain ⟨proxy, present, unread | exhausted⟩ := failed_callEffect failed
              · obtain ⟨found, foundPresent, sameId⟩ :=
                  wellRegistered ownOwner dictionary name registered
                rw [present, Option.some.injEq] at foundPresent
                subst foundPresent
                obtain ⟨⟨id, missing⟩, unchanged⟩ := unread
                refine .inr (.inl ⟨dictionary, id, sameId ▸ missing, ?_, unchanged plan⟩)
                rintro other otherCall ⟨⟩
                rfl
              · exact .inr (.inr ⟨_, exhausted⟩)
          | none =>
              simp only [known, registered] at failed
              have refused := (answerOf_eq_failed_iff _ _).mp failed
              rcases DictionaryProxy.perform_of_error refused with
                ⟨unchanged, id, missing⟩ | exhausted
              · refine .inr (.inl ⟨dictionary, id, ?_, ?_, ?_⟩)
                · exact same ▸ missing
                · rintro other otherCall ⟨⟩
                  rfl
                · simp only [unchanged]
                  rfl
              · exact .inr (.inr ⟨_, exhausted⟩)
  | handle dictionary => exact .inl ⟨dictionary, obtained ownOwner dictionary true failed⟩
  | obtain owner dictionary withTransients =>
      exact .inl ⟨dictionary, obtained owner dictionary withTransients failed⟩
  | register owner stored => simp [effect, answerTo_requestEffect] at failed
  | registered owner dictionary =>
      rw [effect] at failed
      cases found : session.registered? owner dictionary <;>
        simp [found, answerTo] at failed
  | onProxy name call =>
      obtain ⟨proxy, -, ⟨⟨id, missing⟩, unchanged⟩ | exhausted⟩ := failed_callEffect failed
      · exact .inr (.inl ⟨_, id, missing, by simp, unchanged plan⟩)
      · exact .inr (.inr ⟨_, exhausted⟩)

/-! ### Decoding several identifiers -/

theorem isFailure_answerOf_string (proxy : DictionaryProxy) (id : StringId) :
    (answerOf (proxy.perform (.string id)).1).isFailure = !(proxy.getString id).isOk := by
  rw [DictionaryProxy.perform]
  cases proxy.getString id <;> rfl

/-- A proxy refuses several identifiers with the failure of the first one that it
refuses. -/
theorem answerOf_strings_eq_failed_iff (proxy : DictionaryProxy) (ids : List StringId)
    (error : QueryError) :
    answerOf (proxy.perform (.strings ids)).1 = .failed error ↔
      (ids.map fun id => answerOf (proxy.perform (.string id)).1).find?
        SessionAnswer.isFailure = some (.failed error) := by
  have refuses : (SessionAnswer.isFailure ∘ fun id => answerOf (proxy.perform (.string id)).1) =
      fun id => !(proxy.getString id).isOk := funext (isFailure_answerOf_string proxy)
  rw [List.find?_map, refuses, Option.map_eq_some_iff]
  constructor
  · intro failed
    cases decoded : proxy.getStrings ids with
    | ok values => simp [DictionaryProxy.perform, decoded, Except.map, answerOf] at failed
    | error first =>
        obtain ⟨id, found, refused⟩ := (proxy.getStrings_eq_error_iff ids first).mp decoded
        refine ⟨id, found, ?_⟩
        rw [← failed, DictionaryProxy.perform, DictionaryProxy.perform, refused, decoded]
        rfl
  · rintro ⟨id, found, failed⟩
    cases refused : proxy.getString id with
    | ok value => simp [DictionaryProxy.perform, refused, Except.map, answerOf] at failed
    | error first =>
        have decoded := (proxy.getStrings_eq_error_iff ids first).mpr ⟨id, found, refused⟩
        rw [← failed, DictionaryProxy.perform, DictionaryProxy.perform, refused, decoded]
        rfl

/-- Decoding one identifier after the other asks the same proxy each time. -/
theorem Serves.run_strings {session : QuerySession} {plan : Plan} {route : ProxyRoute}
    {name : ProxyName} {proxy : DictionaryProxy} (serves : session.Serves plan route name proxy)
    (wellRegistered : session.IsRegistered) (ids : List StringId) :
    session.runManaged (ids.map fun id => ⟨plan, route.call (.string id)⟩) =
      ids.map fun id => answerOf (proxy.perform (.string id)).1 := by
  induction ids generalizing session with
  | nil => rfl
  | cons id ids ih =>
      have next := (wellRegistered.performManaged ⟨plan, route.call (.string id)⟩).1
      rw [List.map_cons, List.map_cons, runManaged, (serves (.string id)).1,
        ih (serves.next wellRegistered (.string id)) next]

theorem runManaged_held_of_none {session : QuerySession} {name : ProxyName}
    (absent : session.proxy? name = none) (plan : Plan) (ids : List StringId) :
    session.runManaged (ids.map fun id => ⟨plan, .onProxy name (.string id)⟩) =
      ids.map fun _ => .noProxy := by
  induction ids generalizing session with
  | nil => rfl
  | cons id ids ih =>
      let indexed : QuerySession := { session with index := .ofPlan plan }
      have stillAbsent : indexed.proxy? name = none := absent
      have performed : session.performManaged ⟨plan, .onProxy name (.string id)⟩ =
          (.noProxy, indexed) := callProxy_of_none stillAbsent (.string id)
      rw [List.map_cons, List.map_cons, runManaged, performed]
      exact congrArg _ (ih stillAbsent)

/-- Decoding several identifiers through a route fails as decoding them one by one
fails first.  A manager refuses an unknown dictionary even if there is nothing to
decode. -/
theorem performManaged_strings_eq_failed_iff {session : QuerySession}
    (wellRegistered : session.IsRegistered) (plan : Plan) (route : ProxyRoute)
    (ids : List StringId) (error : QueryError) :
    (session.performManaged ⟨plan, route.call (.strings ids)⟩).1 = .failed error ↔
      (session.runManaged (ids.map fun id => ⟨plan, route.call (.string id)⟩)).find?
          SessionAnswer.isFailure = some (.failed error) ∨
        ids = [] ∧ ∃ dictionary, route = .manager dictionary ∧
          session.catalog.get? dictionary = none ∧
          error = .dictionary (.unknownDictionary dictionary) := by
  cases reached : session.reached? route with
  | some name =>
      obtain ⟨opened, proxy, -, -, serves⟩ := exists_serves wellRegistered reached plan
      -- Whoever reaches a proxy does not ask for an unknown dictionary.
      have known : ¬ ∃ dictionary, route = .manager dictionary ∧
          session.catalog.get? dictionary = none ∧
          error = .dictionary (.unknownDictionary dictionary) := by
        rintro ⟨dictionary, rfl, unknown, -⟩
        simp [reached?_manager, unknown] at reached
      rw [(serves (.strings ids)).1, serves.run_strings wellRegistered]
      simp only [known, and_false, or_false]
      exact answerOf_strings_eq_failed_iff proxy ids error
  | none =>
      cases route with
      | held name =>
          have absent : session.proxy? name = none := by simpa [reached?] using reached
          let indexed : QuerySession := { session with index := .ofPlan plan }
          have performed : session.performManaged ⟨plan, .onProxy name (.strings ids)⟩ =
              (.noProxy, indexed) :=
            callProxy_of_none (show indexed.proxy? name = none from absent) _
          simp only [ProxyRoute.call, performed, runManaged_held_of_none absent]
          simp [SessionAnswer.isFailure]
      | manager dictionary =>
          have unknown : session.catalog.get? dictionary = none := by
            simpa [reached?_manager] using reached
          have refused (call : ProxyCall) :
              (session.performManaged ⟨plan, .onDictionary dictionary call⟩).1 =
                .failed (.dictionary (.unknownDictionary dictionary)) := by
            rw [performManaged_eq_apply, effect, managerEffect, unknown]
            rfl
          cases ids with
          | nil => simp [ProxyRoute.call, refused, runManaged, unknown, eq_comm]
          | cons id ids =>
              simp [ProxyRoute.call, refused, runManaged, SessionAnswer.isFailure]

/-! ### Interning through managers -/

/-- The identifiers of the proxy that a manager uses for a dictionary last for all
values that calls intern into it. -/
def IdsLast (session : QuerySession) (dictionary : DictionaryId) (calls : List ManagedCall) :
    Prop :=
  ∀ name, (session.after calls).registered? ownOwner dictionary = some name →
    (session.after calls).LeavesRoom name (session.internedInto name calls)

/-- As long as identifiers last, a manager interns values into a dictionary of the
catalog by the law of first use. -/
theorem internsAs_of_idsLast {plan : Plan} {catalog : DictionaryCatalog}
    {calls : List ManagedCall} {dictionary : DictionaryId} {stored : StringDictionary}
    (known : catalog.get? dictionary = some stored) {manager : Plan} {call : ProxyCall}
    (last : (start plan catalog).IdsLast dictionary
      (calls ++ [⟨manager, .onDictionary dictionary call⟩])) :
    ∃ name identifier,
      ((start plan catalog).after calls).reached? (.manager dictionary) = some name ∧
      ((start plan catalog).after calls).InternsAs ⟨manager, .onDictionary dictionary call⟩ name
        identifier := by
  have wellRegistered := ((isRegistered_start plan catalog).after calls).1
  have sameCatalog : ((start plan catalog).after calls).catalog = catalog := catalog_after _ calls
  obtain ⟨name, reached⟩ : ∃ name,
      ((start plan catalog).after calls).reached? (.manager dictionary) = some name := by
    rw [reached?_manager, sameCatalog, known]
    exact ⟨_, rfl⟩
  have routed : (⟨manager, .onDictionary dictionary call⟩ : ManagedCall).call =
      .onDictionary dictionary call := rfl
  have registered := registered?_performManaged_of_reached? reached routed
  obtain ⟨opened, proxy, -, -, serves⟩ := exists_serves wellRegistered reached manager
  have present := (serves call).2.1
  have room := last name (by rw [after_append]; exact registered) (proxy.perform call).2
    (by rw [after_append]; exact present)
  refine ⟨name, _, reached, internsAs_after_start calls _ [] ?_ room⟩
  rw [after_append]
  exact present

/-- A failed call on a dictionary leaves no trace but an empty registration.  An
unknown dictionary leaves the whole state as it was.  An identifier without a string
leaves the catalog, the registered proxies and all transient strings as they were,
and at most a proxy that a manager had to register; apart from these two failures,
only the identifiers can run out.  Decoding several identifiers fails as decoding them
one by one fails first; without identifiers, only a manager that is asked for an
unknown dictionary fails.  While identifiers last, no manager fails to intern values
into a dictionary of the catalog. -/
theorem failed_calls_leave_no_trace (plan : Plan) (catalog : DictionaryCatalog)
    (calls : List ManagedCall) :
    let session := (start plan catalog).after calls
    (∀ managed error, (session.performManaged managed).1 = .failed (.dictionary error) →
      (∃ dictionary, error = .unknownDictionary dictionary ∧
        (session.performManaged managed).2 = { session with index := .ofPlan managed.plan }) ∨
      (∃ dictionary id,
        (error = .unknownString dictionary id ∨ error = .invalidString dictionary id) ∧
        (∀ other call, managed.call = .onDictionary other call → other = dictionary) ∧
        (session.performManaged managed).2 = session.openedFor managed) ∨
      ∃ dictionary, error = .noIdsLeft dictionary) ∧
    (∀ manager (route : ProxyRoute) ids error,
      (session.performManaged ⟨manager, route.call (.strings ids)⟩).1 = .failed error ↔
        (session.runManaged (ids.map fun id => ⟨manager, route.call (.string id)⟩)).find?
            SessionAnswer.isFailure = some (.failed error) ∨
          ids = [] ∧ ∃ dictionary, route = .manager dictionary ∧
            catalog.get? dictionary = none ∧
            error = .dictionary (.unknownDictionary dictionary)) ∧
    ∀ manager dictionary, catalog.get? dictionary ≠ none →
      (∀ value, (start plan catalog).IdsLast dictionary
          (calls ++ [⟨manager, .onDictionary dictionary (.intern value)⟩]) →
        ∃ id, (session.performManaged ⟨manager, .onDictionary dictionary (.intern value)⟩).1 =
          .answer (.id id)) ∧
      ∀ values, (start plan catalog).IdsLast dictionary
          (calls ++ [⟨manager, .onDictionary dictionary (.internAll values)⟩]) →
        ∃ ids, (session.performManaged ⟨manager, .onDictionary dictionary (.internAll values)⟩).1 =
          .answer (.ids ids) := by
  intro session
  have wellRegistered : session.IsRegistered := ((isRegistered_start plan catalog).after calls).1
  have sameCatalog : session.catalog = catalog := catalog_after _ calls
  refine ⟨fun managed error failed => failed_cases wellRegistered failed, ?_, ?_⟩
  · intro manager route ids error
    rw [performManaged_strings_eq_failed_iff wellRegistered, sameCatalog]
  · intro manager dictionary known
    obtain ⟨stored, found⟩ := Option.ne_none_iff_exists'.mp known
    refine ⟨fun value last => ?_, fun values last => ?_⟩
    · obtain ⟨name, identifier, reached, interns⟩ := internsAs_of_idsLast found last
      exact ⟨_, (interns _ reached).1 value rfl⟩
    · obtain ⟨name, identifier, reached, interns⟩ := internsAs_of_idsLast found last
      exact ⟨_, ((interns _ reached).2 values rfl).1⟩

/-- A view of the dictionary does not count as its registered proxy.  The second of
three identifiers decides, and the proxy that the failed decoding leaves is good for
interning. -/
theorem failed_calls_leave_no_trace_beside_view :
    let catalog : DictionaryCatalog := ⟨[⟨7, ⟨["alpha", "beta"], [("beta", 1), ("alpha", 0)]⟩⟩]⟩
    let viewing : ManagedCall := ⟨⟨[]⟩, .obtain ownOwner 7 false⟩
    let failing : ManagedCall := ⟨⟨[]⟩, .onDictionary 7 (.strings [0, 5, -1])⟩
    let interning : ManagedCall := ⟨⟨[]⟩, .onDictionary 7 (.internAll ["beta", "gamma", "gamma"])⟩
    let session := (start ⟨[]⟩ catalog).after [viewing]
    (session.performManaged failing).1 = .failed (.dictionary (.unknownString 7 5)) ∧
      (session.performManaged failing).2 = session.openedFor failing ∧
      (session.runManaged ([0, 5, -1].map fun id =>
        ⟨⟨[]⟩, .onDictionary 7 (.string id)⟩)).find? SessionAnswer.isFailure =
          some (.failed (.dictionary (.unknownString 7 5))) ∧
      (start ⟨[]⟩ catalog).IdsLast 7 [viewing, failing, interning] ∧
      ∃ ids, ((session.after [failing]).performManaged interning).1 = .answer (.ids ids) := by
  intro catalog viewing failing interning session
  have failed : (session.performManaged failing).1 =
      .failed (.dictionary (.unknownString 7 5)) := by decide
  obtain ⟨traces, decodings, -⟩ := failed_calls_leave_no_trace ⟨[]⟩ catalog [viewing]
  obtain ⟨-, -, interns⟩ := failed_calls_leave_no_trace ⟨[]⟩ catalog [viewing, failing]
  have opened : (session.performManaged failing).2 = session.openedFor failing := by
    rcases traces failing _ failed with ⟨_, other, _⟩ | ⟨_, _, _, _, opened⟩ | ⟨_, other⟩
    · contradiction
    · exact opened
    · contradiction
  have first : (session.runManaged ([0, 5, -1].map fun id =>
      ⟨⟨[]⟩, .onDictionary 7 (.string id)⟩)).find? SessionAnswer.isFailure =
        some (.failed (.dictionary (.unknownString 7 5))) := by
    rcases (decodings ⟨[]⟩ (.manager 7) [0, 5, -1] _).mp failed with first | ⟨empty, _⟩
    · exact first
    · contradiction
  have last : (start ⟨[]⟩ catalog).IdsLast 7 [viewing, failing, interning] := by
    intro name registered proxy present
    have settled : ((start ⟨[]⟩ catalog).after [viewing, failing, interning]).registered?
        ownOwner 7 = some 1 := by decide
    obtain rfl : 1 = name := Option.some.inj (settled.symm.trans registered)
    have same : some _ = some proxy := present
    rw [← Option.some.inj same]
    decide
  refine ⟨failed, opened, first, last, ?_⟩
  exact (interns ⟨[]⟩ 7 (by decide)).2 _ last

/-- Without identifiers to decode no identifier fails, but an unknown dictionary
does. -/
theorem empty_decoding_of_unknown_dictionary_fails :
    let catalog : DictionaryCatalog := ⟨[⟨7, ⟨["alpha"], [("alpha", 0)]⟩⟩]⟩
    let session := start ⟨[]⟩ catalog
    let ids : List StringId := []
    (session.performManaged ⟨⟨[]⟩, .onDictionary 9 (.strings ids)⟩).1 =
        .failed (.dictionary (.unknownDictionary 9)) ∧
      (session.runManaged (ids.map fun id => ⟨⟨[]⟩, .onDictionary 9 (.string id)⟩)).find?
        SessionAnswer.isFailure = none := by
  decide

end QuerySession

end RowFunctions

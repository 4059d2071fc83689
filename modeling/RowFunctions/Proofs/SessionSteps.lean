import RowFunctions.Proofs.ProxyIdentifiers
import RowFunctions.QuerySessions

/-!
# What one call does to a session

A call on a session first opens it: a proxy may come into being and be
registered.  Then, if the call is aimed at a proxy, that proxy performs it and
every other proxy stays as it is.  This file describes the two phases once, so
that nothing else has to look into the functions behind them.
-/

namespace RowFunctions

/-- A way to a proxy: through a manager by dictionary, or directly through a
handle, its raw pointer or a stored proxy. -/
inductive ProxyRoute where
  | manager (dictionary : DictionaryId)
  | held (name : ProxyName)

/-- The call on a session that makes a call on the proxy at the end of a route. -/
def ProxyRoute.call : ProxyRoute → ProxyCall → SessionCall
  | manager dictionary, call => .onDictionary dictionary call
  | held name, call => .onProxy name call

/-- The route and the proxy's part of a call on a session, if it goes to a proxy. -/
def SessionCall.routed? : SessionCall → Option (ProxyRoute × ProxyCall)
  | .onDictionary dictionary call => some (.manager dictionary, call)
  | .onProxy name call => some (.held name, call)
  | _ => none

theorem SessionCall.eq_of_routed? {call : SessionCall} {route : ProxyRoute}
    {proxyCall : ProxyCall} (routed : call.routed? = some (route, proxyCall)) :
    call = route.call proxyCall := by
  cases call <;> simp only [routed?, Option.some.injEq, Prod.mk.injEq, reduceCtorEq] at routed
  all_goals
    obtain ⟨rfl, rfl⟩ := routed
    rfl

@[simp]
theorem ProxyRoute.routed?_call (route : ProxyRoute) (call : ProxyCall) :
    (route.call call).routed? = some (route, call) := by
  cases route <;> rfl

namespace QuerySession

/-- Every registered proxy exists and is one of the dictionary it is registered
for. -/
def IsRegistered (session : QuerySession) : Prop :=
  ∀ owner dictionary name, session.registered? owner dictionary = some name →
    ∃ proxy, session.proxy? name = some proxy ∧ proxy.dictionary.id = dictionary

/-- A session opens when it keeps what it has and at most adds fresh proxies and
registers them. -/
structure Opens (later earlier : QuerySession) : Prop where
  catalog : later.catalog = earlier.catalog
  kept : ∀ owner dictionary name, earlier.registered? owner dictionary = some name →
    later.registered? owner dictionary = some name
  added : ∀ owner dictionary name, later.registered? owner dictionary = some name →
    earlier.registered? owner dictionary = some name ∨
      ∃ stored, stored.id = dictionary ∧ later.proxy? name = some (.ofDictionary stored)
  proxies : ∃ fresh : List StringDictionary,
    later.proxies = earlier.proxies ++ fresh.map .ofDictionary

namespace Opens

variable {later earlier : QuerySession}

theorem refl (session : QuerySession) : session.Opens session where
  catalog := rfl
  kept := fun _ _ _ registered => registered
  added := fun _ _ _ registered => .inl registered
  proxies := ⟨[], by simp⟩

theorem proxy?_of_some (opens : later.Opens earlier) {name : ProxyName}
    {proxy : DictionaryProxy} (present : earlier.proxy? name = some proxy) :
    later.proxy? name = some proxy := by
  obtain ⟨fresh, proxies⟩ := opens.proxies
  unfold proxy? at present ⊢
  rw [proxies, List.getElem?_append_left (List.getElem?_eq_some_iff.mp present).1]
  exact present

theorem proxy?_of_none (opens : later.Opens earlier) {name : ProxyName}
    (absent : earlier.proxy? name = none) {proxy : DictionaryProxy}
    (present : later.proxy? name = some proxy) :
    ∃ stored, proxy = .ofDictionary stored := by
  obtain ⟨fresh, proxies⟩ := opens.proxies
  unfold proxy? at absent present
  rw [proxies, List.getElem?_append_right (List.getElem?_eq_none_iff.mp absent),
    List.getElem?_map, Option.map_eq_some_iff] at present
  obtain ⟨stored, _, rfl⟩ := present
  exact ⟨stored, rfl⟩

theorem isRegistered (opens : later.Opens earlier) (wellRegistered : earlier.IsRegistered) :
    later.IsRegistered := by
  intro owner dictionary name registered
  rcases opens.added owner dictionary name registered with before | ⟨stored, same, present⟩
  · obtain ⟨proxy, present, same⟩ := wellRegistered owner dictionary name before
    exact ⟨proxy, opens.proxy?_of_some present, same⟩
  · exact ⟨_, present, same⟩

end Opens

theorem proxy?_create (session : QuerySession) (dictionary : StringDictionary) :
    (session.create dictionary).2.proxy? (session.create dictionary).1 =
      some (.ofDictionary dictionary) := by
  simp [create, proxy?]

theorem opens_create (session : QuerySession) (dictionary : StringDictionary) :
    (session.create dictionary).2.Opens session where
  catalog := rfl
  kept := fun _ _ _ registered => registered
  added := fun _ _ _ registered => .inl registered
  proxies := ⟨[dictionary], rfl⟩

theorem opens_register (session : QuerySession) (owner : OwnerName)
    (dictionary : StringDictionary) :
    (session.register owner dictionary).2.Opens session ∧
      (session.register owner dictionary).2.registered? owner dictionary.id =
        some (session.register owner dictionary).1 := by
  unfold register
  cases known : session.registered? owner dictionary.id with
  | some name => exact ⟨.refl session, known⟩
  | none =>
      have created := session.proxy?_create dictionary
      have opened := session.opens_create dictionary
      refine ⟨⟨rfl, ?_, ?_, opened.proxies⟩, ?_⟩
      · intro other otherDictionary name registered
        change (session.registry ++ _).lookup _ = _
        rw [AssociationList.lookup_append_singleton, Option.or_eq_some_iff]
        exact .inl registered
      · intro other otherDictionary name registered
        change (session.registry ++ _).lookup _ = _ at registered
        rw [AssociationList.lookup_append_singleton, Option.or_eq_some_iff] at registered
        rcases registered with before | ⟨-, added⟩
        · exact .inl before
        · by_cases same : (other, otherDictionary) = (owner, dictionary.id)
          · rw [if_pos same, Option.some.injEq] at added
            refine .inr ⟨dictionary, (Prod.mk.injEq .. ▸ same).2.symm, ?_⟩
            rw [← added]
            exact created
          · rw [if_neg same] at added
            contradiction
      · change (session.registry ++ _).lookup _ = _
        have absent : session.registry.lookup (owner, dictionary.id) = none := known
        rw [AssociationList.lookup_append_singleton, absent, Option.none_or, if_pos rfl]

theorem id_of_get? {catalog : DictionaryCatalog} {dictionary : DictionaryId}
    {stored : StringDictionary} (known : catalog.get? dictionary = some stored) :
    stored.id = dictionary := by
  have found := List.find?_some known
  exact eq_of_beq found

theorem obtain_of_unknown {session : QuerySession} {dictionary : DictionaryId}
    (unknown : session.catalog.get? dictionary = none) (owner : OwnerName)
    (withTransients : Bool) :
    session.obtain owner dictionary withTransients =
      (.error (.unknownDictionary dictionary), session) := by
  simp [obtain, DictionaryCatalog.get, unknown]

theorem obtain_of_known {session : QuerySession} {dictionary : DictionaryId}
    {stored : StringDictionary} (known : session.catalog.get? dictionary = some stored)
    (owner : OwnerName) (withTransients : Bool) :
    ∃ (name : ProxyName) (opened : QuerySession),
      session.obtain owner dictionary withTransients = (.ok name, opened) ∧
      opened.Opens session ∧
      (withTransients = true → opened.registered? owner dictionary = some name) := by
  have same := id_of_get? known
  unfold obtain DictionaryCatalog.get
  rw [known]
  cases withTransients with
  | true =>
      obtain ⟨opens, registered⟩ := session.opens_register owner stored
      rw [same] at registered
      exact ⟨_, _, rfl, opens, fun _ => registered⟩
  | false =>
      cases present : session.registered? owner dictionary with
      | some name => exact ⟨name, session, by simp, .refl session, by simp⟩
      | none => exact ⟨_, _, rfl, session.opens_create stored, by simp⟩

/-- What a session answers after a proxy performed a call. -/
def answerOf : Except DictionaryError ProxyAnswer → SessionAnswer
  | .ok answer => .answer answer
  | .error error => .failed (.dictionary error)

theorem callProxy_of_none {session : QuerySession} {name : ProxyName}
    (absent : session.proxy? name = none) (call : ProxyCall) :
    session.callProxy name call = (.noProxy, session) := by
  simp [callProxy, absent]

theorem callProxy_of_some {session : QuerySession} {name : ProxyName} {proxy : DictionaryProxy}
    (present : session.proxy? name = some proxy) (call : ProxyCall) :
    session.callProxy name call =
      (answerOf (proxy.perform call).1, session.replace name (proxy.perform call).2) := by
  unfold callProxy
  rw [present]
  cases performed : proxy.perform call with
  | mk answer next => cases answer <;> simp [performed, answerOf]

theorem proxy?_replace {session : QuerySession} {name : ProxyName} {proxy : DictionaryProxy}
    (present : session.proxy? name = some proxy) (next : DictionaryProxy) (other : ProxyName) :
    (session.replace name next).proxy? other =
      if other = name then some next else session.proxy? other := by
  have bounded := (List.getElem?_eq_some_iff.mp present).1
  unfold replace proxy?
  rw [List.getElem?_set]
  by_cases same : other = name
  · simp [same, bounded]
  · simp [same, Ne.symm same]

/-- The proxy that a route leads to: a manager asks the session's own owner for
it, and whoever holds a proxy has it already. -/
def reached? (session : QuerySession) : ProxyRoute → Option ProxyName
  | .manager dictionary => (session.obtain ownOwner dictionary true).1.toOption
  | .held name => (session.proxy? name).map fun _ => name

/-- For a known dictionary a manager leads to the registered proxy, or to a new
one. -/
theorem reached?_manager (session : QuerySession) (dictionary : DictionaryId) :
    session.reached? (.manager dictionary) =
      (session.catalog.get? dictionary).map fun _ =>
        (session.registered? ownOwner dictionary).getD session.proxies.length := by
  cases known : session.catalog.get? dictionary with
  | none => rw [reached?, obtain_of_unknown known]; rfl
  | some stored =>
      have same := id_of_get? known
      simp only [reached?, obtain, DictionaryCatalog.get, known, register, same, if_true]
      cases session.registered? ownOwner dictionary <;> rfl

theorem perform_route_of_none {session : QuerySession} {route : ProxyRoute}
    (nowhere : session.reached? route = none) (call : ProxyCall) :
    (session.perform (route.call call)).2 = session := by
  cases route with
  | manager dictionary =>
      cases known : session.catalog.get? dictionary with
      | none => simp [ProxyRoute.call, perform, obtain_of_unknown known]
      | some stored =>
          obtain ⟨name, opened, obtained, -⟩ := obtain_of_known known ownOwner true
          simp [reached?, obtained, Except.toOption] at nowhere
  | held name =>
      have absent : session.proxy? name = none := by simpa [reached?] using nowhere
      simp [ProxyRoute.call, perform, callProxy_of_none absent]

/-- A call on a route opens the session, and then the proxy that the route leads
to performs the call. -/
theorem perform_route_of_some {session : QuerySession} (wellRegistered : session.IsRegistered)
    {route : ProxyRoute} {name : ProxyName} (reached : session.reached? route = some name) :
    ∃ (opened : QuerySession) (proxy : DictionaryProxy), opened.Opens session ∧
      opened.proxy? name = some proxy ∧
      ∀ call, session.perform (route.call call) =
          (answerOf (proxy.perform call).1, opened.replace name (proxy.perform call).2) ∧
        (session.perform (route.call call)).2.reached? route = some name := by
  cases route with
  | manager dictionary =>
      cases known : session.catalog.get? dictionary with
      | none => simp [reached?, obtain_of_unknown known, Except.toOption] at reached
      | some stored =>
          obtain ⟨answered, opened, obtained, opens, registered⟩ :=
            obtain_of_known known ownOwner true
          have same : answered = name := by
            simpa [reached?, obtained, Except.toOption] using reached
          subst same
          obtain ⟨proxy, present, -⟩ :=
            opens.isRegistered wellRegistered ownOwner dictionary answered (registered rfl)
          refine ⟨opened, proxy, opens, present, fun call => ?_⟩
          have performed : session.perform (.onDictionary dictionary call) =
              (answerOf (proxy.perform call).1,
                opened.replace answered (proxy.perform call).2) := by
            simp [perform, obtained, callProxy_of_some present]
          refine ⟨performed, ?_⟩
          rw [ProxyRoute.call, performed]
          rw [reached?_manager]
          change ((opened.catalog.get? dictionary).map fun _ =>
            (opened.registered? ownOwner dictionary).getD _) = _
          rw [opens.catalog, known, registered rfl]
          rfl
  | held other =>
      obtain ⟨proxy, present, rfl⟩ := Option.map_eq_some_iff.mp reached
      refine ⟨session, proxy, .refl session, present, fun call => ?_⟩
      have performed := callProxy_of_some present call
      refine ⟨performed, ?_⟩
      rw [ProxyRoute.call, perform, performed, reached?, proxy?_replace present, if_pos rfl]
      rfl

theorem perform_obtain_of_unknown {session : QuerySession} {dictionary : DictionaryId}
    (unknown : session.catalog.get? dictionary = none) (owner : OwnerName)
    (withTransients : Bool) :
    session.perform (.obtain owner dictionary withTransients) =
      (.failed (.dictionary (.unknownDictionary dictionary)), session) := by
  simp [perform, obtain_of_unknown unknown]

theorem perform_obtain_of_known {session : QuerySession} {dictionary : DictionaryId}
    {stored : StringDictionary} (known : session.catalog.get? dictionary = some stored)
    (owner : OwnerName) (withTransients : Bool) :
    ∃ (name : ProxyName) (opened : QuerySession),
      session.perform (.obtain owner dictionary withTransients) = (.proxy name, opened) ∧
      opened.Opens session ∧
      (withTransients = true → opened.registered? owner dictionary = some name) := by
  obtain ⟨name, opened, obtained, opens, registered⟩ :=
    obtain_of_known known owner withTransients
  exact ⟨name, opened, by simp [perform, obtained], opens, registered⟩

/-- A call that goes to no proxy only opens the session. -/
theorem opens_perform (session : QuerySession) {call : SessionCall}
    (unrouted : call.routed? = none) : (session.perform call).2.Opens session := by
  have opens_obtain (owner : OwnerName) (dictionary : DictionaryId) (withTransients : Bool) :
      (session.perform (.obtain owner dictionary withTransients)).2.Opens session := by
    cases known : session.catalog.get? dictionary with
    | none =>
        rw [perform_obtain_of_unknown known]
        exact .refl session
    | some stored =>
        obtain ⟨name, opened, performed, opens, -⟩ :=
          perform_obtain_of_known known owner withTransients
        rw [performed]
        exact opens
  cases call with
  | resolve name arity argument =>
      rw [perform]
      cases (session.index.resolve name arity argument).outcome <;> exact .refl session
  | onDictionary dictionary call => simp [SessionCall.routed?] at unrouted
  | handle dictionary => exact opens_obtain ownOwner dictionary true
  | obtain owner dictionary withTransients => exact opens_obtain owner dictionary withTransients
  | register owner dictionary => exact (session.opens_register owner dictionary).1
  | registered owner dictionary =>
      rw [perform]
      cases session.registered? owner dictionary <;> exact .refl session
  | onProxy name call => simp [SessionCall.routed?] at unrouted

end QuerySession

end RowFunctions

import RowFunctions.Proofs.SessionSteps
import RowFunctions.Proofs.TransientOrder

/-!
# Calls through the managers of one session

Any number of managers, each with a plan of its own, may work on one session.
This file says what one call through a manager does to the registrations and the
proxies, and derives what every run of calls keeps: a registration stays, a proxy
keeps its dictionary, and each request for an owner's proxy leads to the one that
is registered.
-/

namespace RowFunctions

/-- A call on a session through the manager of some plan. -/
structure ManagedCall where
  plan : Plan
  call : SessionCall

/-- A request whose answer is the proxy that an owner registers for a dictionary. -/
inductive SessionCall.AsksFor : SessionCall → OwnerName → DictionaryId → Prop
  | handle (dictionary : DictionaryId) :
      AsksFor (.handle dictionary) QuerySession.ownOwner dictionary
  | obtain (owner : OwnerName) (dictionary : DictionaryId) :
      AsksFor (.obtain owner dictionary true) owner dictionary
  | register (owner : OwnerName) (stored : StringDictionary) :
      AsksFor (.register owner stored) owner stored.id

namespace QuerySession

/-- Answer a call through the manager of its plan. -/
def performManaged (session : QuerySession) (managed : ManagedCall) :
    SessionAnswer × QuerySession :=
  { session with index := CallSiteIndex.ofPlan managed.plan }.perform managed.call

def runManaged (session : QuerySession) : List ManagedCall → List SessionAnswer
  | [] => []
  | managed :: calls =>
      (session.performManaged managed).1 :: runManaged (session.performManaged managed).2 calls

def after (session : QuerySession) (calls : List ManagedCall) : QuerySession :=
  calls.foldl (fun session managed => (session.performManaged managed).2) session

/-- The values that one call interns into the proxy with a number. -/
def internedBy (session : QuerySession) (name : ProxyName) (managed : ManagedCall) :
    List String :=
  match managed.call.routed? with
  | some (route, call) => if session.reached? route = some name then call.interned else []
  | none => []

theorem after_append (session : QuerySession) (earlier later : List ManagedCall) :
    session.after (earlier ++ later) = (session.after earlier).after later := by
  rw [after, List.foldl_append]
  rfl

theorem Opens.of_index {later earlier : QuerySession} {index : CallSiteIndex}
    (opens : later.Opens { earlier with index }) : later.Opens earlier where
  catalog := opens.catalog
  kept := opens.kept
  added := opens.added
  proxies := opens.proxies

theorem reached?_index (session : QuerySession) (index : CallSiteIndex) (route : ProxyRoute) :
    { session with index }.reached? route = session.reached? route := by
  cases route with
  | manager dictionary =>
      rw [reached?_manager, reached?_manager]
      rfl
  | held name => rfl

/-- What a call through a manager does: it opens the session, and if it interns
anything then the proxy at the end of its route performs it. -/
theorem performManaged_cases {session : QuerySession} (wellRegistered : session.IsRegistered)
    (managed : ManagedCall) :
    ((session.performManaged managed).2.Opens session ∧
        ∀ name, session.internedBy name managed = []) ∨
      ∃ (opened : QuerySession) (target : ProxyName) (proxy : DictionaryProxy)
        (call : ProxyCall), opened.Opens session ∧ opened.proxy? target = some proxy ∧
        (session.performManaged managed).2 = opened.replace target (proxy.perform call).2 ∧
        ∀ name, session.internedBy name managed =
          if target = name then call.interned else [] := by
  cases routed : managed.call.routed? with
  | none =>
      refine .inl ⟨(opens_perform _ routed).of_index, fun name => ?_⟩
      rw [internedBy, routed]
  | some routing =>
      obtain ⟨route, call⟩ := routing
      have same := SessionCall.eq_of_routed? routed
      cases reached : session.reached? route with
      | none =>
          have performed := perform_route_of_none
            ((session.reached?_index (.ofPlan managed.plan) route).trans reached) call
          refine .inl ⟨?_, fun name => ?_⟩
          · rw [performManaged, same, performed]
            exact (Opens.refl _).of_index
          · simp [internedBy, routed, reached]
      | some target =>
          have indexed : IsRegistered { session with index := .ofPlan managed.plan } :=
            wellRegistered
          obtain ⟨opened, proxy, opens, present, performed⟩ :=
            perform_route_of_some indexed ((session.reached?_index _ route).trans reached)
          refine .inr ⟨opened, target, proxy, call, opens.of_index, present, ?_, fun name => ?_⟩
          · rw [performManaged, same, (performed call).1]
          · simp [internedBy, routed, reached]

/-- A session continues another one when it keeps the registrations and the
dictionaries of all proxies. -/
structure Continues (later earlier : QuerySession) : Prop where
  registered : ∀ owner dictionary name, earlier.registered? owner dictionary = some name →
    later.registered? owner dictionary = some name
  proxies : ∀ name proxy, earlier.proxy? name = some proxy →
    ∃ next, later.proxy? name = some next ∧ next.dictionary = proxy.dictionary

theorem Continues.refl (session : QuerySession) : session.Continues session where
  registered := fun _ _ _ registered => registered
  proxies := fun _ proxy present => ⟨proxy, present, rfl⟩

theorem Continues.trans {last middle first : QuerySession} (late : last.Continues middle)
    (early : middle.Continues first) : last.Continues first where
  registered := fun owner dictionary name registered =>
    late.registered _ _ _ (early.registered owner dictionary name registered)
  proxies := by
    intro name proxy present
    obtain ⟨next, presentNext, same⟩ := early.proxies name proxy present
    obtain ⟨final, presentFinal, sameFinal⟩ := late.proxies name next presentNext
    exact ⟨final, presentFinal, sameFinal.trans same⟩

theorem Opens.continues {later earlier : QuerySession} (opens : later.Opens earlier) :
    later.Continues earlier where
  registered := opens.kept
  proxies := fun _ proxy present => ⟨proxy, opens.proxy?_of_some present, rfl⟩

theorem continues_replace {session : QuerySession} {name : ProxyName} {proxy : DictionaryProxy}
    (present : session.proxy? name = some proxy) (call : ProxyCall) :
    (session.replace name (proxy.perform call).2).Continues session where
  registered := fun _ _ _ registered => registered
  proxies := by
    intro other otherProxy otherPresent
    rw [proxy?_replace present]
    by_cases same : other = name
    · subst same
      rw [present, Option.some.injEq] at otherPresent
      subst otherPresent
      exact ⟨_, if_pos rfl, proxy.dictionary_perform call⟩
    · exact ⟨otherProxy, by rw [if_neg same, otherPresent], rfl⟩

theorem IsRegistered.replace {session : QuerySession} (wellRegistered : session.IsRegistered)
    {name : ProxyName} {proxy : DictionaryProxy} (present : session.proxy? name = some proxy)
    (call : ProxyCall) : (session.replace name (proxy.perform call).2).IsRegistered := by
  intro owner dictionary other registered
  obtain ⟨found, foundPresent, same⟩ := wellRegistered owner dictionary other registered
  obtain ⟨next, nextPresent, sameDictionary⟩ :=
    (continues_replace present call).proxies other found foundPresent
  exact ⟨next, nextPresent, sameDictionary ▸ same⟩

theorem IsRegistered.performManaged {session : QuerySession}
    (wellRegistered : session.IsRegistered) (managed : ManagedCall) :
    (session.performManaged managed).2.IsRegistered ∧
      (session.performManaged managed).2.Continues session := by
  rcases performManaged_cases wellRegistered managed with
    ⟨opens, -⟩ | ⟨opened, target, proxy, call, opens, present, performed, -⟩
  · exact ⟨opens.isRegistered wellRegistered, opens.continues⟩
  · rw [performed]
    exact ⟨(opens.isRegistered wellRegistered).replace present call,
      (continues_replace present call).trans opens.continues⟩

theorem IsRegistered.after {session : QuerySession} (wellRegistered : session.IsRegistered)
    (calls : List ManagedCall) :
    (session.after calls).IsRegistered ∧ (session.after calls).Continues session := by
  induction calls generalizing session with
  | nil => exact ⟨wellRegistered, .refl session⟩
  | cons managed calls ih =>
      have first := wellRegistered.performManaged managed
      have rest := ih first.1
      exact ⟨rest.1, rest.2.trans first.2⟩

theorem isRegistered_start (plan : Plan) (catalog : DictionaryCatalog) :
    (start plan catalog).IsRegistered := by
  intro owner dictionary name registered
  simp [start, registered?] at registered

/-- What a call registers stays registered for the rest of a run. -/
theorem IsRegistered.registered?_settles {session : QuerySession}
    (wellRegistered : session.IsRegistered) {managed : ManagedCall} {later : List ManagedCall}
    {owner : OwnerName} {dictionary : DictionaryId} {answered name : ProxyName}
    (soon : (session.performManaged managed).2.registered? owner dictionary = some answered)
    (registered : (session.after (managed :: later)).registered? owner dictionary =
      some name) : answered = name := by
  have last := ((wellRegistered.performManaged managed).1.after later).2
  have kept := last.registered owner dictionary answered soon
  exact Option.some.inj (kept.symm.trans registered)

/-- A request for an owner's proxy of a dictionary answers the registered proxy,
unless the catalog does not know the dictionary. -/
theorem performManaged_asksFor (session : QuerySession) {managed : ManagedCall}
    {owner : OwnerName} {dictionary : DictionaryId}
    (asks : managed.call.AsksFor owner dictionary) :
    (session.performManaged managed).1 = .failed (.dictionary (.unknownDictionary dictionary)) ∨
      ∃ name, (session.performManaged managed).1 = .proxy name ∧
        (session.performManaged managed).2.registered? owner dictionary = some name := by
  have obtained (owner : OwnerName) (dictionary : DictionaryId) (session : QuerySession) :
      (session.perform (.obtain owner dictionary true)).1 =
          .failed (.dictionary (.unknownDictionary dictionary)) ∨
        ∃ name, (session.perform (.obtain owner dictionary true)).1 = .proxy name ∧
          (session.perform (.obtain owner dictionary true)).2.registered? owner dictionary =
            some name := by
    cases known : session.catalog.get? dictionary with
    | none => exact .inl (by rw [perform_obtain_of_unknown known])
    | some stored =>
        obtain ⟨name, opened, performed, -, registered⟩ :=
          perform_obtain_of_known known owner true
        rw [performed]
        exact .inr ⟨name, rfl, registered rfl⟩
  obtain ⟨plan, call⟩ := managed
  cases asks with
  | handle => exact obtained ownOwner dictionary _
  | obtain => exact obtained owner dictionary _
  | register owner stored => exact .inr ⟨_, rfl, (opens_register _ owner stored).2⟩

theorem registered?_performManaged_of_reached? {session : QuerySession}
    {dictionary : DictionaryId} {name : ProxyName}
    (reached : session.reached? (.manager dictionary) = some name) {managed : ManagedCall}
    {call : ProxyCall} (routed : managed.call = .onDictionary dictionary call) :
    (session.performManaged managed).2.registered? ownOwner dictionary = some name := by
  rw [← reached?_index session (.ofPlan managed.plan)] at reached
  rw [performManaged, routed]
  generalize { session with index := .ofPlan managed.plan } = indexed at reached ⊢
  cases known : indexed.catalog.get? dictionary with
  | none => simp [reached?, obtain_of_unknown known, Except.toOption] at reached
  | some stored =>
      obtain ⟨answered, opened, obtained, opens, registered⟩ :=
        obtain_of_known known ownOwner true
      have same : answered = name := by
        simpa [reached?, obtained, Except.toOption] using reached
      have performed : indexed.perform (.onDictionary dictionary call) =
          opened.callProxy answered call := by
        simp [perform, obtained]
      rw [performed, ← same, ← registered rfl]
      cases present : opened.proxy? answered with
      | none => rw [callProxy_of_none present]
      | some proxy =>
          rw [callProxy_of_some present]
          rfl

end QuerySession

end RowFunctions

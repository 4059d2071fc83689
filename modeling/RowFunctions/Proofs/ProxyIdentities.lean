import RowFunctions.Proofs.ProxyRegistration

/-!
# Identities of proxies

The proxy of an owner for a dictionary is one object for a whole session.  This
file shows it for every run: what a call registers is what every later request is
answered, through managers, handles and requests of either kind; different pairs
have different proxies; an owner has as many proxies as dictionaries were asked
for; and a proxy that was made for reading only is never given out a second time.
-/

namespace RowFunctions

namespace QuerySession

/-! ### Counting the proxies of an owner -/

theorem isSome_registered?_after (session : QuerySession) (calls : List ManagedCall)
    (owner : OwnerName) (dictionary : DictionaryId) :
    ((session.after calls).registered? owner dictionary).isSome ↔
      (session.registered? owner dictionary).isSome ∨
        dictionary ∈ registeredIds session.catalog owner calls := by
  induction calls generalizing session with
  | nil => simp [after, mem_registeredIds]
  | cons managed calls ih =>
      change (((session.performManaged managed).2.after calls).registered? owner
        dictionary).isSome ↔ _
      rw [ih, catalog_performManaged, registered?_performManaged, mem_registeredIds,
        mem_registeredIds]
      by_cases registers :
          managed.call.registration? session.catalog = some (owner, dictionary) <;>
        simp [registers]

theorem RegistersOnce.proxyCount_eq_card {session : QuerySession}
    (once : session.RegistersOnce) {owner : OwnerName} {ids : Finset DictionaryId}
    (registered : ∀ dictionary,
      (session.registered? owner dictionary).isSome ↔ dictionary ∈ ids) :
    session.proxyCount owner = ids.card := by
  have distinct :
      ((session.registry.filter fun entry => entry.1.1 == owner).map fun entry =>
        entry.1.2).Nodup := by
    refine List.Nodup.map_on ?_ (once.keys.of_map.filter _)
    intro first firstListed second secondListed same
    rw [List.mem_filter, beq_iff_eq] at firstListed secondListed
    refine List.inj_on_of_nodup_map once.keys firstListed.1 secondListed.1 ?_
    exact Prod.ext (firstListed.2.trans secondListed.2.symm) same
  have members : ((session.registry.filter fun entry => entry.1.1 == owner).map fun entry =>
      entry.1.2).toFinset = ids := by
    ext dictionary
    rw [← registered, Option.isSome_iff_exists, List.mem_toFinset]
    simp only [registered?, AssociationList.lookup_eq_some_iff_mem once.keys, List.mem_map,
      List.mem_filter, beq_iff_eq]
    constructor
    · rintro ⟨⟨⟨_, _⟩, name⟩, ⟨listed, rfl⟩, rfl⟩
      exact ⟨name, listed⟩
    · rintro ⟨name, listed⟩
      exact ⟨((owner, dictionary), name), ⟨listed, rfl⟩, rfl⟩
  rw [proxyCount, ← members, List.toFinset_card_of_nodup distinct, List.length_map]

theorem proxyCount_after_start (plan : Plan) (catalog : DictionaryCatalog)
    (calls : List ManagedCall) (owner : OwnerName) :
    ((start plan catalog).after calls).proxyCount owner =
      (registeredIds catalog owner calls).card := by
  refine ((registersOnce_start plan catalog).after calls).proxyCount_eq_card ?_
  intro dictionary
  rw [isSome_registered?_after]
  simp [start, registered?]

theorem registeredIds_append (catalog : DictionaryCatalog) (owner : OwnerName)
    (earlier later : List ManagedCall) :
    registeredIds catalog owner (earlier ++ later) =
      registeredIds catalog owner earlier ∪ registeredIds catalog owner later := by
  simp [registeredIds]

/-! ### Answers to requests -/

theorem answerTo_requestEffect (session : QuerySession) (owner : OwnerName)
    (stored : StringDictionary) (register : Bool) (fresh : ProxyName) :
    answerTo fresh (session.requestEffect owner stored register) =
      .proxy ((session.registered? owner stored.id).getD fresh) := by
  unfold requestEffect
  cases session.registered? owner stored.id <;> rfl

theorem answerTo_obtainEffect (session : QuerySession) (owner : OwnerName)
    (dictionary : DictionaryId) (withTransients : Bool) (fresh : ProxyName) :
    answerTo fresh (session.obtainEffect owner dictionary withTransients) =
      match session.catalog.get? dictionary with
      | some _ => .proxy ((session.registered? owner dictionary).getD fresh)
      | none => .failed (.dictionary (.unknownDictionary dictionary)) := by
  unfold obtainEffect
  cases known : session.catalog.get? dictionary with
  | none => rfl
  | some stored =>
      have same := id_of_get? known
      subst same
      exact session.answerTo_requestEffect owner stored withTransients fresh

/-- Whoever requests a registered proxy gets it, unless the request goes by way of
a catalog that does not know the dictionary. -/
theorem performManaged_of_requests {session : QuerySession} {owner : OwnerName}
    {dictionary : DictionaryId} {name : ProxyName}
    (registered : session.registered? owner dictionary = some name) {managed : ManagedCall}
    (requests : managed.call.Requests owner dictionary) :
    (session.performManaged managed).1 = .proxy name ∨
      session.catalog.get? dictionary = none ∧
        (session.performManaged managed).1 =
          .failed (.dictionary (.unknownDictionary dictionary)) := by
  obtain ⟨plan, call⟩ := managed
  have obtained (withTransients : Bool) (fresh : ProxyName) :
      answerTo fresh (session.obtainEffect owner dictionary withTransients) = .proxy name ∨
        session.catalog.get? dictionary = none ∧
          answerTo fresh (session.obtainEffect owner dictionary withTransients) =
            .failed (.dictionary (.unknownDictionary dictionary)) := by
    rw [answerTo_obtainEffect, registered]
    cases session.catalog.get? dictionary <;> simp
  rw [performManaged_eq_apply]
  cases requests with
  | handle => exact obtained true _
  | obtain _ _ withTransients => exact obtained withTransients _
  | register owner stored => simp [effect, answerTo_requestEffect, registered]
  | registered => simp [effect, registered, answerTo]

/-- A call that registers a proxy leaves one registered, and answers it if it is a
request. -/
theorem performManaged_of_registration {session : QuerySession} {managed : ManagedCall}
    {owner : OwnerName} {dictionary : DictionaryId}
    (registers : managed.call.registration? session.catalog = some (owner, dictionary)) :
    ∃ name, (session.performManaged managed).2.registered? owner dictionary = some name ∧
      (managed.call.Requests owner dictionary →
        (session.performManaged managed).1 = .proxy name) := by
  refine ⟨(session.registered? owner dictionary).getD session.proxies.length, ?_, ?_⟩
  · rw [registered?_performManaged, if_pos registers]
    cases session.registered? owner dictionary <;> rfl
  · intro requests
    obtain ⟨plan, call⟩ := managed
    rw [performManaged_eq_apply]
    cases requests with
    | handle =>
        rw [effect, answerTo_obtainEffect]
        cases known : session.catalog.get? dictionary with
        | none => simp [SessionCall.registration?, known] at registers
        | some stored => rfl
    | obtain _ _ withTransients =>
        rw [effect, answerTo_obtainEffect]
        cases known : session.catalog.get? dictionary with
        | none => cases withTransients <;> simp [SessionCall.registration?, known] at registers
        | some stored => rfl
    | register owner stored => exact session.answerTo_requestEffect owner stored true _
    | registered => simp [SessionCall.registration?] at registers

/-- A call through a manager is the call on the registered proxy. -/
theorem performManaged_onDictionary {session : QuerySession} {dictionary : DictionaryId}
    {name : ProxyName} (registered : session.registered? ownOwner dictionary = some name)
    (known : session.catalog.get? dictionary ≠ none) (plan : Plan) (call : ProxyCall) :
    session.performManaged ⟨plan, .onDictionary dictionary call⟩ =
      session.performManaged ⟨plan, .onProxy name call⟩ := by
  obtain ⟨stored, found⟩ := Option.ne_none_iff_exists'.mp known
  have same : session.effect ⟨plan, .onDictionary dictionary call⟩ =
      session.effect ⟨plan, .onProxy name call⟩ := by
    simp [effect, managerEffect, found, registered]
  rw [performManaged_eq_apply, performManaged_eq_apply, same]

/-! ### Proxies outside the registry -/

/-- A proxy exists and is registered nowhere. -/
structure IsView (session : QuerySession) (name : ProxyName) : Prop where
  present : name < session.proxies.length
  unregistered : ∀ owner dictionary, session.registered? owner dictionary ≠ some name

namespace IsView

variable {session : QuerySession} {name : ProxyName}

theorem performManaged (view : session.IsView name) (managed : ManagedCall) :
    (session.performManaged managed).2.IsView name where
  present := Nat.lt_of_lt_of_le view.present (session.length_le_performManaged managed)
  unregistered := by
    intro owner dictionary registered
    rw [registered?_performManaged, Option.or_eq_some_iff] at registered
    rcases registered with before | ⟨-, added⟩
    · exact view.unregistered owner dictionary before
    · rw [Option.ite_none_right_eq_some, Option.some.injEq] at added
      exact Nat.ne_of_gt view.present added.2

theorem after (view : session.IsView name) (calls : List ManagedCall) :
    (session.after calls).IsView name :=
  after_induction (fun next => next.IsView name) (fun _ managed view => view.performManaged managed)
    view calls

theorem answer_ne (view : session.IsView name) (managed : ManagedCall) :
    (session.performManaged managed).1 ≠ .proxy name := by
  rw [performManaged_eq_apply]
  have allowed := session.allows_effect managed
  generalize session.effect managed = effect at allowed ⊢
  intro answered
  cases allowed with
  | answers answer registered =>
      obtain ⟨⟨owner, dictionary⟩, present⟩ := registered name answered
      exact view.unregistered owner dictionary present
  | changes other proxy performed present =>
      cases replied : (proxy.perform performed).1 <;> simp [answerTo, answerOf, replied] at answered
  | adds key proxy reply named origin =>
      cases reply with
      | none =>
          rw [answerTo, SessionAnswer.proxy.injEq] at answered
          exact Nat.ne_of_gt view.present answered
      | some reply => cases reply <;> simp [answerTo, answerOf] at answered

/-- A proxy outside the registry is not an answer any more. -/
theorem notMem_runManaged (view : session.IsView name) (calls : List ManagedCall) :
    .proxy name ∉ session.runManaged calls := by
  induction calls generalizing session with
  | nil => simp [runManaged]
  | cons managed calls ih =>
      rw [runManaged, List.mem_cons, not_or]
      exact ⟨(view.answer_ne managed).symm, ih (view.performManaged managed)⟩

end IsView

theorem RegistersOnce.lt_length_of_answer {session : QuerySession}
    (once : session.RegistersOnce) {managed : ManagedCall} {name : ProxyName}
    (answered : (session.performManaged managed).1 = .proxy name) :
    name < (session.performManaged managed).2.proxies.length := by
  rw [performManaged_eq_apply] at answered ⊢
  have allowed := session.allows_effect managed
  generalize session.effect managed = effect at allowed answered ⊢
  cases allowed with
  | answers answer registered =>
      obtain ⟨key, present⟩ := registered name answered
      exact once.lt_length present
  | changes other proxy performed present =>
      cases replied : (proxy.perform performed).1 <;> simp [answerTo, answerOf, replied] at answered
  | adds key proxy reply named origin =>
      cases reply with
      | none =>
          rw [answerTo, SessionAnswer.proxy.injEq] at answered
          simp [QuerySession.apply, answered]
      | some reply => cases reply <;> simp [answerTo, answerOf] at answered

theorem RegistersOnce.lt_length_of_mem_runManaged {session : QuerySession}
    (once : session.RegistersOnce) {calls : List ManagedCall} {name : ProxyName}
    (answered : .proxy name ∈ session.runManaged calls) :
    name < (session.after calls).proxies.length := by
  induction calls generalizing session with
  | nil => simp [runManaged] at answered
  | cons managed calls ih =>
      rw [runManaged, List.mem_cons] at answered
      rcases answered with now | later
      · exact Nat.lt_of_lt_of_le (once.lt_length_of_answer now.symm)
          ((session.performManaged managed).2.length_le_after calls)
      · exact ih (once.performManaged managed) later

/-- A proxy that a call adds and does not register is a view. -/
theorem RegistersOnce.isView_of_adds {session : QuerySession} (once : session.RegistersOnce)
    {managed : ManagedCall} {proxy : DictionaryProxy}
    {reply : Option (Except DictionaryError ProxyAnswer)}
    (adds : session.effect managed = .adds none proxy reply) :
    (session.performManaged managed).2.IsView session.proxies.length where
  present := by
    rw [performManaged_eq_apply, adds]
    simp [QuerySession.apply]
  unregistered := by
    intro owner dictionary registered
    rw [performManaged_eq_apply, adds] at registered
    change (session.apply _ _).registry.lookup _ = _ at registered
    rw [lookup_apply] at registered
    simp only [SessionEffect.key?, reduceCtorEq, if_false, Option.or_none] at registered
    exact Nat.lt_irrefl _ (once.lt_length registered)

/-- A request without transient strings for a pair that has no proxy makes a proxy
of its own, which is not registered. -/
theorem effect_obtain_view {session : QuerySession} {owner : OwnerName}
    {dictionary : DictionaryId} {stored : StringDictionary}
    (known : session.catalog.get? dictionary = some stored)
    (absent : session.registered? owner dictionary = none) (plan : Plan) :
    session.effect ⟨plan, .obtain owner dictionary false⟩ =
      .adds none (.ofDictionary stored) none := by
  have same := id_of_get? known
  subst same
  simp [effect, obtainEffect, known, requestEffect, absent]

theorem performManaged_obtain_view {session : QuerySession} {owner : OwnerName}
    {dictionary : DictionaryId} {stored : StringDictionary}
    (known : session.catalog.get? dictionary = some stored)
    (absent : session.registered? owner dictionary = none) (plan : Plan) :
    session.performManaged ⟨plan, .obtain owner dictionary false⟩ =
      (.proxy session.proxies.length,
        session.apply plan (.adds none (.ofDictionary stored) none)) := by
  rw [performManaged_eq_apply, effect_obtain_view known absent]
  rfl

theorem RegistersOnce.isView_of_obtain {session : QuerySession} (once : session.RegistersOnce)
    {owner : OwnerName} {dictionary : DictionaryId} {stored : StringDictionary}
    (known : session.catalog.get? dictionary = some stored)
    (absent : session.registered? owner dictionary = none) (plan : Plan) :
    (session.performManaged ⟨plan, .obtain owner dictionary false⟩).2.IsView
      session.proxies.length :=
  once.isView_of_adds (effect_obtain_view known absent plan)

/-! ### One proxy for each pair -/

/-- An owner has as many proxies as dictionaries that calls registered with it; their
number never falls, and only a call that registers changes it.  A call that
registers answers, if it is a request, the proxy that is registered from then on.
Once registered, the proxy belongs to no other pair, and it answers every later
request for its pair; for the session's own owner a call through a manager is the
call through a handle to it.  A proxy made by a request without transient strings
is the answer of no other call, earlier or later, and is never registered. -/
theorem one_proxy_for_each_pair (plan : Plan) (catalog : DictionaryCatalog)
    (calls : List ManagedCall) :
    let session := (start plan catalog).after calls
    (∀ owner,
      session.proxyCount owner = (registeredIds catalog owner calls).card ∧
      (∀ dictionary, (session.registered? owner dictionary).isSome ↔
        dictionary ∈ registeredIds catalog owner calls) ∧
      ∀ managed,
        session.proxyCount owner ≤ (session.performManaged managed).2.proxyCount owner ∧
        (managed.call.registration? catalog = none →
          (session.performManaged managed).2.proxyCount owner = session.proxyCount owner)) ∧
    (∀ managed owner dictionary,
      managed.call.registration? catalog = some (owner, dictionary) →
        ∃ name, (session.performManaged managed).2.registered? owner dictionary = some name ∧
          (managed.call.Requests owner dictionary →
            (session.performManaged managed).1 = .proxy name)) ∧
    (∀ owner dictionary name, session.registered? owner dictionary = some name →
      (∀ other otherDictionary, session.registered? other otherDictionary = some name →
        other = owner ∧ otherDictionary = dictionary) ∧
      ∀ later, let current := session.after later
        current.registered? owner dictionary = some name ∧
        (∀ managed, managed.call.Requests owner dictionary →
          (current.performManaged managed).1 = .proxy name ∨
            catalog.get? dictionary = none ∧
              (current.performManaged managed).1 =
                .failed (.dictionary (.unknownDictionary dictionary))) ∧
        (owner = ownOwner → catalog.get? dictionary ≠ none → ∀ manager call,
          current.performManaged ⟨manager, .onDictionary dictionary call⟩ =
            current.performManaged ⟨manager, .onProxy name call⟩)) ∧
    ∀ manager owner dictionary name,
      session.registered? owner dictionary = none →
      (session.performManaged ⟨manager, .obtain owner dictionary false⟩).1 = .proxy name →
        let viewed := (session.performManaged ⟨manager, .obtain owner dictionary false⟩).2
        .proxy name ∉ (start plan catalog).runManaged calls ∧
        ∀ later, .proxy name ∉ viewed.runManaged later ∧
          ∀ other otherDictionary,
            (viewed.after later).registered? other otherDictionary ≠ some name := by
  intro session
  have sameCatalog : session.catalog = catalog := catalog_after _ calls
  have once : session.RegistersOnce := (registersOnce_start plan catalog).after calls
  have registered := (isRegistered_start plan catalog).after calls
  refine ⟨?_, ?_, ?_, ?_⟩
  · intro owner
    have counted := proxyCount_after_start plan catalog calls owner
    refine ⟨counted, ?_, ?_⟩
    · intro dictionary
      rw [isSome_registered?_after]
      simp [start, registered?]
    · intro managed
      -- The count after the call is that of a run which is one call longer.
      have next := proxyCount_after_start plan catalog (calls ++ [managed]) owner
      rw [after_append, registeredIds_append] at next
      change (session.performManaged managed).2.proxyCount owner = _ at next
      rw [counted, next]
      refine ⟨Finset.card_le_card Finset.subset_union_left, ?_⟩
      intro registersNothing
      have nothing : registeredIds catalog owner [managed] = ∅ := by
        simp [registeredIds, registersNothing]
      rw [nothing, Finset.union_empty]
  · intro managed owner dictionary registers
    exact performManaged_of_registration (sameCatalog ▸ registers)
  · intro owner dictionary name present
    refine ⟨?_, ?_⟩
    · intro other otherDictionary same
      exact Prod.mk.inj (once.key_unique same present)
    · intro later current
      have kept := (registered.1.after later).2.registered owner dictionary name present
      have currentCatalog : current.catalog = catalog :=
        (catalog_after session later).trans sameCatalog
      refine ⟨kept, ?_, ?_⟩
      · intro managed requests
        rw [← currentCatalog]
        exact performManaged_of_requests kept requests
      · rintro rfl known manager call
        exact performManaged_onDictionary kept (by rwa [currentCatalog]) manager call
  · intro manager owner dictionary name absent answered viewed
    cases known : session.catalog.get? dictionary with
    | none =>
        rw [performManaged_eq_apply, effect, answerTo_obtainEffect, known] at answered
        contradiction
    | some stored =>
        -- The new number lies above all earlier answers, and a view stays one for good.
        have view := once.isView_of_obtain known absent manager
        rw [performManaged_obtain_view known absent] at answered
        have fresh : session.proxies.length = name := SessionAnswer.proxy.inj answered
        rw [fresh] at view
        refine ⟨?_, fun later => ⟨view.notMem_runManaged later, (view.after later).unregistered⟩⟩
        intro early
        have bounded := (registersOnce_start plan catalog).lt_length_of_mem_runManaged early
        exact Nat.ne_of_lt bounded fresh.symm

/-- A failing call registers the proxy that a foreign dictionary with the same
identifier is answered later.  The proxy made before for reading stays apart. -/
theorem one_proxy_for_each_pair_after_reading :
    let catalog : DictionaryCatalog := ⟨[⟨1, ⟨["alpha"], [("alpha", 0)]⟩⟩]⟩
    let reading : ManagedCall := ⟨⟨[]⟩, .obtain ownOwner 1 false⟩
    let failing : ManagedCall := ⟨⟨[]⟩, .onDictionary 1 (.string 5)⟩
    let foreign : ManagedCall := ⟨⟨[]⟩, .register ownOwner ⟨1, ⟨["omega"], [("omega", 0)]⟩⟩⟩
    let session := (start ⟨[]⟩ catalog).after [reading, failing]
    (start ⟨[]⟩ catalog).registered? ownOwner 1 = none ∧
      ((start ⟨[]⟩ catalog).performManaged reading).1 = .proxy 0 ∧
      session.registered? ownOwner 1 = some 1 ∧
      session.proxyCount ownOwner = 1 ∧
      ((session.after [reading]).performManaged foreign).1 = .proxy 1 ∧
      .proxy 0 ∉ ((start ⟨[]⟩ catalog).performManaged reading).2.runManaged
        [failing, reading, foreign] := by
  intro catalog reading failing foreign session
  have absent : (start ⟨[]⟩ catalog).registered? ownOwner 1 = none := by decide
  have answered : ((start ⟨[]⟩ catalog).performManaged reading).1 = .proxy 0 := by decide
  have registered : session.registered? ownOwner 1 = some 1 := by decide
  obtain ⟨counts, -, settled, -⟩ := one_proxy_for_each_pair ⟨[]⟩ catalog [reading, failing]
  obtain ⟨-, -, -, views⟩ := one_proxy_for_each_pair ⟨[]⟩ catalog []
  obtain ⟨-, later⟩ := settled ownOwner 1 1 registered
  obtain ⟨-, requests, -⟩ := later [reading]
  refine ⟨absent, answered, registered, ?_, ?_, ?_⟩
  · rw [(counts ownOwner).1]
    decide
  · rcases requests foreign (.register ownOwner _) with same | ⟨unknown, -⟩
    · exact same
    · contradiction
  · exact ((views ⟨[]⟩ ownOwner 1 0 absent answered).2 [failing, reading, foreign]).1

end QuerySession

end RowFunctions

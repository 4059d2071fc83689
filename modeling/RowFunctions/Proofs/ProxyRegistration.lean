import RowFunctions.Proofs.SessionEffects

/-!
# Registered proxies

A memory owner registers one proxy for a dictionary, the first time that one is
needed, and hands out this proxy ever after.  This file follows the registry
through all calls of a run.  Its keys and its proxies never repeat, so an entry is
an identity: every route to a dictionary of an owner leads to the same proxy, and
no proxy serves two of them.  A proxy made for a request without transient strings
stays outside the registry and is never handed out again.
-/

namespace RowFunctions

/-- A request for the proxy that an owner has, or would have, for a dictionary. -/
inductive SessionCall.Requests : SessionCall → OwnerName → DictionaryId → Prop
  | handle (dictionary : DictionaryId) :
      Requests (.handle dictionary) QuerySession.ownOwner dictionary
  | obtain (owner : OwnerName) (dictionary : DictionaryId) (withTransients : Bool) :
      Requests (.obtain owner dictionary withTransients) owner dictionary
  | register (owner : OwnerName) (stored : StringDictionary) :
      Requests (.register owner stored) owner stored.id
  | registered (owner : OwnerName) (dictionary : DictionaryId) :
      Requests (.registered owner dictionary) owner dictionary

/-- The owner and the dictionary that have a registered proxy after a call, whether
or not they had one before. -/
def SessionCall.registration? (catalog : DictionaryCatalog) :
    SessionCall → Option (OwnerName × DictionaryId)
  | .onDictionary dictionary _ | .handle dictionary =>
      (catalog.get? dictionary).map fun _ => (QuerySession.ownOwner, dictionary)
  | .obtain owner dictionary true => (catalog.get? dictionary).map fun _ => (owner, dictionary)
  | .register owner stored => some (owner, stored.id)
  | _ => none

namespace QuerySession

/-- The dictionaries for which calls register a proxy with an owner. -/
def registeredIds (catalog : DictionaryCatalog) (owner : OwnerName)
    (calls : List ManagedCall) : Finset DictionaryId :=
  (((calls.filterMap fun managed => managed.call.registration? catalog).filter
    fun key => key.1 == owner).map Prod.snd).toFinset

theorem mem_registeredIds (catalog : DictionaryCatalog) (owner : OwnerName)
    (calls : List ManagedCall) (dictionary : DictionaryId) :
    dictionary ∈ registeredIds catalog owner calls ↔
      ∃ managed ∈ calls, managed.call.registration? catalog = some (owner, dictionary) := by
  simp [registeredIds]

/-! ### The keys that calls register -/

private theorem key?_callEffect (session : QuerySession) (name : ProxyName) (call : ProxyCall) :
    (session.callEffect name call).key? = none := by
  unfold callEffect
  cases session.proxy? name <;> rfl

private theorem key?_requestEffect_eq_some_iff (session : QuerySession) (owner : OwnerName)
    (stored : StringDictionary) (register : Bool) (key : OwnerName × DictionaryId) :
    (session.requestEffect owner stored register).key? = some key ↔
      (if register then some (owner, stored.id) else none) = some key ∧
        session.registry.lookup key = none := by
  unfold requestEffect
  cases registered : session.registered? owner stored.id with
  | some name =>
      have present : session.registry.lookup (owner, stored.id) = some name := registered
      cases register
      · simp [SessionEffect.key?]
      · simp only [SessionEffect.key?, reduceCtorEq, if_true, Option.some.injEq, false_iff]
        rintro ⟨rfl, absent⟩
        rw [present] at absent
        contradiction
  | none =>
      have absent : session.registry.lookup (owner, stored.id) = none := registered
      cases register
      · simp [SessionEffect.key?]
      · simp only [SessionEffect.key?, if_true, Option.some.injEq]
        exact ⟨fun same => ⟨same, same ▸ absent⟩, And.left⟩

private theorem key?_obtainEffect_eq_some_iff (session : QuerySession) (owner : OwnerName)
    (dictionary : DictionaryId) (withTransients : Bool) (key : OwnerName × DictionaryId) :
    (session.obtainEffect owner dictionary withTransients).key? = some key ↔
      (SessionCall.obtain owner dictionary withTransients).registration? session.catalog =
          some key ∧ session.registry.lookup key = none := by
  unfold obtainEffect
  cases known : session.catalog.get? dictionary with
  | none => cases withTransients <;> simp [SessionEffect.key?, SessionCall.registration?, known]
  | some stored =>
      have same := id_of_get? known
      subst same
      rw [key?_requestEffect_eq_some_iff]
      cases withTransients <;> simp [SessionCall.registration?, known]

private theorem key?_managerEffect_eq_some_iff (session : QuerySession)
    (dictionary : DictionaryId) (call : ProxyCall) (key : OwnerName × DictionaryId) :
    (session.managerEffect dictionary call).key? = some key ↔
      (SessionCall.onDictionary dictionary call).registration? session.catalog = some key ∧
        session.registry.lookup key = none := by
  unfold managerEffect
  cases known : session.catalog.get? dictionary with
  | none => simp [SessionEffect.key?, SessionCall.registration?, known]
  | some stored =>
      simp only [SessionCall.registration?, known, Option.map_some, Option.some.injEq]
      cases registered : session.registered? ownOwner dictionary with
      | some name =>
          have present : session.registry.lookup (ownOwner, dictionary) = some name := registered
          change (session.callEffect name call).key? = some key ↔ _
          rw [key?_callEffect]
          simp only [reduceCtorEq, false_iff]
          rintro ⟨rfl, absent⟩
          rw [present] at absent
          contradiction
      | none =>
          simp only [SessionEffect.key?, Option.some.injEq]
          exact ⟨fun same => ⟨same, same ▸ registered⟩, And.left⟩

/-- A call registers exactly what it asks for and what is not registered yet. -/
theorem key?_effect_eq_some_iff (session : QuerySession) (managed : ManagedCall)
    (key : OwnerName × DictionaryId) :
    (session.effect managed).key? = some key ↔
      managed.call.registration? session.catalog = some key ∧
        session.registry.lookup key = none := by
  obtain ⟨plan, call⟩ := managed
  cases call with
  | resolve name arity argument =>
      rw [effect]
      cases ((CallSiteIndex.ofPlan plan).resolve name arity argument).outcome <;>
        simp [SessionEffect.key?, SessionCall.registration?]
  | onDictionary dictionary call => exact session.key?_managerEffect_eq_some_iff dictionary call key
  | handle dictionary => exact session.key?_obtainEffect_eq_some_iff ownOwner dictionary true key
  | obtain owner dictionary withTransients =>
      exact session.key?_obtainEffect_eq_some_iff owner dictionary withTransients key
  | register owner stored => exact session.key?_requestEffect_eq_some_iff owner stored true key
  | registered owner dictionary =>
      rw [effect]
      cases session.registered? owner dictionary <;>
        simp [SessionEffect.key?, SessionCall.registration?]
  | onProxy name call => simp [effect, key?_callEffect, SessionCall.registration?]

theorem registered?_performManaged (session : QuerySession) (managed : ManagedCall)
    (owner : OwnerName) (dictionary : DictionaryId) :
    (session.performManaged managed).2.registered? owner dictionary =
      (session.registered? owner dictionary).or
        (if managed.call.registration? session.catalog = some (owner, dictionary) then
          some session.proxies.length else none) := by
  rw [performManaged_eq_apply]
  change (session.apply _ _).registry.lookup _ = _
  rw [lookup_apply, registered?]
  cases present : session.registry.lookup (owner, dictionary) with
  | some name => simp
  | none => simp [key?_effect_eq_some_iff, present]

/-! ### What every run keeps -/

/-- What holds of a session and is kept by every call holds after any calls. -/
theorem after_induction (Holds : QuerySession → Prop)
    (step : ∀ session managed, Holds session → Holds (session.performManaged managed).2)
    {session : QuerySession} (holds : Holds session) (calls : List ManagedCall) :
    Holds (session.after calls) := by
  induction calls generalizing session with
  | nil => exact holds
  | cons managed calls ih => exact ih (step session managed holds)

theorem catalog_performManaged (session : QuerySession) (managed : ManagedCall) :
    (session.performManaged managed).2.catalog = session.catalog := by
  rw [performManaged_eq_apply, catalog_apply]

@[simp]
theorem catalog_after (session : QuerySession) (calls : List ManagedCall) :
    (session.after calls).catalog = session.catalog := by
  refine after_induction (fun next => next.catalog = session.catalog) ?_ rfl calls
  intro next managed same
  rw [catalog_performManaged, same]

theorem length_le_performManaged (session : QuerySession) (managed : ManagedCall) :
    session.proxies.length ≤ (session.performManaged managed).2.proxies.length := by
  rw [performManaged_eq_apply]
  exact session.length_le_apply managed.plan _

theorem length_le_after (session : QuerySession) (calls : List ManagedCall) :
    session.proxies.length ≤ (session.after calls).proxies.length := by
  refine after_induction (fun next => session.proxies.length ≤ next.proxies.length) ?_
    (Nat.le_refl _) calls
  intro next managed bounded
  exact bounded.trans (next.length_le_performManaged managed)

/-- The registry names every pair and every proxy once, and only proxies that
exist. -/
structure RegistersOnce (session : QuerySession) : Prop where
  keys : (session.registry.map Prod.fst).Nodup
  names : (session.registry.map Prod.snd).Nodup
  bounded : ∀ entry ∈ session.registry, entry.2 < session.proxies.length

namespace RegistersOnce

variable {session : QuerySession}

theorem mem_of_registered? (once : session.RegistersOnce) {key : OwnerName × DictionaryId}
    {name : ProxyName} (registered : session.registry.lookup key = some name) :
    (key, name) ∈ session.registry :=
  (AssociationList.lookup_eq_some_iff_mem once.keys key name).mp registered

theorem lt_length (once : session.RegistersOnce) {key : OwnerName × DictionaryId}
    {name : ProxyName} (registered : session.registry.lookup key = some name) :
    name < session.proxies.length :=
  once.bounded _ (once.mem_of_registered? registered)

/-- No proxy is registered for two pairs. -/
theorem key_unique (once : session.RegistersOnce) {first second : OwnerName × DictionaryId}
    {name : ProxyName} (one : session.registry.lookup first = some name)
    (two : session.registry.lookup second = some name) : first = second := by
  have same := List.inj_on_of_nodup_map once.names (once.mem_of_registered? one)
    (once.mem_of_registered? two) rfl
  exact congrArg Prod.fst same

theorem apply (once : session.RegistersOnce) (plan : Plan) {effect : SessionEffect}
    (fresh : ∀ key, effect.key? = some key → session.registry.lookup key = none) :
    (session.apply plan effect).RegistersOnce := by
  cases effect with
  | answers answer => exact ⟨once.keys, once.names, once.bounded⟩
  | changes name proxy reply =>
      refine ⟨once.keys, once.names, fun entry listed => ?_⟩
      rw [QuerySession.apply, List.length_set]
      exact once.bounded entry listed
  | adds added proxy reply =>
      have grown : ∀ entry ∈ session.registry,
          entry.2 < (session.proxies ++ [proxy]).length := by
        intro entry listed
        rw [List.length_append]
        exact Nat.lt_add_right _ (once.bounded entry listed)
      cases added with
      | none =>
          refine ⟨?_, ?_, ?_⟩ <;> simp only [QuerySession.apply, Option.map_none,
            Option.toList_none, List.append_nil]
          · exact once.keys
          · exact once.names
          · exact grown
      | some key =>
          have unlisted := AssociationList.notMem_keys_of_lookup_eq_none (fresh key rfl)
          have unnamed : session.proxies.length ∉ session.registry.map Prod.snd := by
            intro member
            obtain ⟨entry, listed, same⟩ := List.mem_map.mp member
            exact absurd same (Nat.ne_of_lt (once.bounded entry listed))
          refine ⟨?_, ?_, ?_⟩ <;> simp only [QuerySession.apply, Option.map_some,
            Option.toList_some, List.map_append, List.map_cons, List.map_nil]
          · rw [← List.concat_eq_append]
            exact once.keys.concat unlisted
          · rw [← List.concat_eq_append]
            exact once.names.concat unnamed
          · intro entry listed
            rcases List.mem_append.mp listed with before | added
            · exact grown entry before
            · rw [List.mem_singleton.mp added, List.length_append]
              simp

theorem performManaged (once : session.RegistersOnce) (managed : ManagedCall) :
    (session.performManaged managed).2.RegistersOnce := by
  rw [performManaged_eq_apply]
  refine once.apply managed.plan fun key added => ?_
  exact ((session.key?_effect_eq_some_iff managed key).mp added).2

theorem after (once : session.RegistersOnce) (calls : List ManagedCall) :
    (session.after calls).RegistersOnce :=
  after_induction RegistersOnce (fun _ managed once => once.performManaged managed) once calls

end RegistersOnce

theorem registersOnce_start (plan : Plan) (catalog : DictionaryCatalog) :
    (start plan catalog).RegistersOnce := by
  refine ⟨?_, ?_, ?_⟩ <;> simp [start]

end QuerySession

end RowFunctions

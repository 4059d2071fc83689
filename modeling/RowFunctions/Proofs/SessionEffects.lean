import RowFunctions.Proofs.ManagedCalls

/-!
# Effects of calls

A call does one of three things to a session: it only answers, or the proxy with
a number takes a new state, or one new proxy comes into being, which is registered
or not.  This file computes the effect of a call without carrying it out, and
shows that carrying out the effect is what the call does.  Whatever holds of all
effects therefore holds of all calls.
-/

namespace RowFunctions

/-- What a call does to a session.  A new proxy without a reply of its own is
itself the answer. -/
inductive SessionEffect where
  | answers (answer : SessionAnswer)
  | changes (name : ProxyName) (proxy : DictionaryProxy)
      (reply : Except DictionaryError ProxyAnswer)
  | adds (key : Option (OwnerName × DictionaryId)) (proxy : DictionaryProxy)
      (reply : Option (Except DictionaryError ProxyAnswer))

/-- The pair under which an effect registers the proxy that it adds. -/
def SessionEffect.key? : SessionEffect → Option (OwnerName × DictionaryId)
  | .adds key _ _ => key
  | _ => none

namespace QuerySession

/-- The answer of an effect when a new proxy gets the given number. -/
def answerTo (fresh : ProxyName) : SessionEffect → SessionAnswer
  | .answers answer => answer
  | .changes _ _ reply => answerOf reply
  | .adds _ _ (some reply) => answerOf reply
  | .adds _ _ none => .proxy fresh

/-- Carry out an effect on behalf of the manager of a plan. -/
def apply (session : QuerySession) (plan : Plan) : SessionEffect → QuerySession
  | .answers _ => { session with index := .ofPlan plan }
  | .changes name proxy _ =>
      { session with
        index := .ofPlan plan
        proxies := session.proxies.set name proxy }
  | .adds key proxy _ =>
      { session with
        index := .ofPlan plan
        registry := session.registry ++ (key.map fun key => (key, session.proxies.length)).toList
        proxies := session.proxies ++ [proxy] }

def callEffect (session : QuerySession) (name : ProxyName) (call : ProxyCall) : SessionEffect :=
  match session.proxy? name with
  | some proxy => .changes name (proxy.perform call).2 (proxy.perform call).1
  | none => .answers .noProxy

/-- The effect of a request for the proxy of a dictionary, which may have to be
registered. -/
def requestEffect (session : QuerySession) (owner : OwnerName) (stored : StringDictionary)
    (register : Bool) : SessionEffect :=
  match session.registered? owner stored.id with
  | some name => .answers (.proxy name)
  | none => .adds (if register then some (owner, stored.id) else none) (.ofDictionary stored) none

def obtainEffect (session : QuerySession) (owner : OwnerName) (dictionary : DictionaryId)
    (withTransients : Bool) : SessionEffect :=
  match session.catalog.get? dictionary with
  | none => .answers (.failed (.dictionary (.unknownDictionary dictionary)))
  | some stored => session.requestEffect owner stored withTransients

/-- The effect of a call that a manager passes on to the proxy of a dictionary. -/
def managerEffect (session : QuerySession) (dictionary : DictionaryId) (call : ProxyCall) :
    SessionEffect :=
  match session.catalog.get? dictionary with
  | none => .answers (.failed (.dictionary (.unknownDictionary dictionary)))
  | some stored =>
      match session.registered? ownOwner dictionary with
      | some name => session.callEffect name call
      | none =>
          let proxy := DictionaryProxy.ofDictionary stored
          .adds (some (ownOwner, dictionary)) (proxy.perform call).2 (some (proxy.perform call).1)

/-- The effect of a call through the manager of a plan. -/
def effect (session : QuerySession) : ManagedCall → SessionEffect
  | ⟨plan, .resolve name arity argument⟩ =>
      match ((CallSiteIndex.ofPlan plan).resolve name arity argument).outcome with
      | .ok dictionary => .answers (.dictionary dictionary)
      | .error error => .answers (.failed (.resolution error))
  | ⟨_, .onDictionary dictionary call⟩ => session.managerEffect dictionary call
  | ⟨_, .handle dictionary⟩ => session.obtainEffect ownOwner dictionary true
  | ⟨_, .obtain owner dictionary withTransients⟩ =>
      session.obtainEffect owner dictionary withTransients
  | ⟨_, .register owner dictionary⟩ => session.requestEffect owner dictionary true
  | ⟨_, .registered owner dictionary⟩ =>
      match session.registered? owner dictionary with
      | some name => .answers (.proxy name)
      | none => .answers .noProxy
  | ⟨_, .onProxy name call⟩ => session.callEffect name call

/-! ### Carrying out an effect is what the call does -/

section

variable (session : QuerySession) (plan : Plan)

/-- A session that answers for the manager of a plan. -/
private def indexed : QuerySession := { session with index := .ofPlan plan }

private theorem callProxy_eq_apply (name : ProxyName) (call : ProxyCall) :
    (session.indexed plan).callProxy name call =
      (answerTo session.proxies.length (session.callEffect name call),
        session.apply plan (session.callEffect name call)) := by
  have same : (session.indexed plan).proxy? name = session.proxy? name := rfl
  cases present : session.proxy? name with
  | none =>
      rw [callProxy_of_none (same.trans present), callEffect, present]
      rfl
  | some proxy =>
      rw [callProxy_of_some (same.trans present), callEffect, present]
      rfl

private theorem register_eq_apply (owner : OwnerName) (stored : StringDictionary) :
    (SessionAnswer.proxy ((session.indexed plan).register owner stored).1,
        ((session.indexed plan).register owner stored).2) =
      (answerTo session.proxies.length (session.requestEffect owner stored true),
        session.apply plan (session.requestEffect owner stored true)) := by
  have same : (session.indexed plan).registered? owner stored.id =
      session.registered? owner stored.id := rfl
  unfold QuerySession.register requestEffect
  rw [same]
  cases session.registered? owner stored.id <;> rfl

private theorem perform_obtain_eq_apply (owner : OwnerName) (dictionary : DictionaryId)
    (withTransients : Bool) :
    (session.indexed plan).perform (.obtain owner dictionary withTransients) =
      (answerTo session.proxies.length (session.obtainEffect owner dictionary withTransients),
        session.apply plan (session.obtainEffect owner dictionary withTransients)) := by
  have sameCatalog : (session.indexed plan).catalog = session.catalog := rfl
  cases known : session.catalog.get? dictionary with
  | none =>
      have unknown : (session.indexed plan).catalog.get? dictionary = none := known
      rw [perform_obtain_of_unknown unknown, obtainEffect, known]
      rfl
  | some stored =>
      have same := id_of_get? known
      subst same
      cases withTransients with
      | true =>
          rw [obtainEffect, known, perform, obtain, DictionaryCatalog.get, sameCatalog, known]
          exact session.register_eq_apply plan owner stored
      | false =>
          rw [obtainEffect, known, perform, obtain, DictionaryCatalog.get, sameCatalog, known]
          have sameRegistered : (session.indexed plan).registered? owner stored.id =
              session.registered? owner stored.id := rfl
          simp only [requestEffect, sameRegistered, Bool.false_eq_true, if_false]
          cases session.registered? owner stored.id with
          | some name => rfl
          | none => simp [create, apply, indexed, answerTo]

private theorem perform_onDictionary_eq_apply (dictionary : DictionaryId) (call : ProxyCall) :
    (session.indexed plan).perform (.onDictionary dictionary call) =
      (answerTo session.proxies.length (session.managerEffect dictionary call),
        session.apply plan (session.managerEffect dictionary call)) := by
  have sameCatalog : (session.indexed plan).catalog = session.catalog := rfl
  cases known : session.catalog.get? dictionary with
  | none =>
      have unknown : (session.indexed plan).catalog.get? dictionary = none := known
      rw [perform, obtain_of_unknown unknown, managerEffect, known]
      rfl
  | some stored =>
      have same := id_of_get? known
      subst same
      have sameRegistered : (session.indexed plan).registered? ownOwner stored.id =
          session.registered? ownOwner stored.id := rfl
      rw [managerEffect, known, perform, obtain, DictionaryCatalog.get, sameCatalog, known]
      cases registered : session.registered? ownOwner stored.id with
      | some name =>
          simp only [if_true, QuerySession.register, sameRegistered, registered]
          exact session.callProxy_eq_apply plan name call
      | none =>
          -- The new proxy performs the call at once, so it is added as the call leaves it.
          simp only [if_true, QuerySession.register, sameRegistered, registered]
          have created := (session.indexed plan).proxy?_create stored
          refine (callProxy_of_some (by exact created) call).trans ?_
          simp [replace, create, apply, indexed, answerTo]

/-- A call answers what its effect says and leaves the session as its effect does. -/
theorem performManaged_eq_apply (managed : ManagedCall) :
    session.performManaged managed =
      (answerTo session.proxies.length (session.effect managed),
        session.apply managed.plan (session.effect managed)) := by
  obtain ⟨plan, call⟩ := managed
  cases call with
  | resolve name arity argument =>
      change (session.indexed plan).perform (.resolve name arity argument) = _
      have same : (session.indexed plan).index = CallSiteIndex.ofPlan plan := rfl
      rw [perform, effect, same]
      cases ((CallSiteIndex.ofPlan plan).resolve name arity argument).outcome <;> rfl
  | onDictionary dictionary call => exact session.perform_onDictionary_eq_apply plan dictionary call
  | handle dictionary => exact session.perform_obtain_eq_apply plan ownOwner dictionary true
  | obtain owner dictionary withTransients =>
      exact session.perform_obtain_eq_apply plan owner dictionary withTransients
  | register owner stored => exact session.register_eq_apply plan owner stored
  | registered owner dictionary =>
      have same : (session.indexed plan).registered? owner dictionary =
          session.registered? owner dictionary := rfl
      change (session.indexed plan).perform (.registered owner dictionary) = _
      rw [perform, effect, same]
      cases session.registered? owner dictionary <;> rfl
  | onProxy name call => exact session.callProxy_eq_apply plan name call

end

/-! ### What an effect leaves as it is -/

@[simp]
theorem catalog_apply (session : QuerySession) (plan : Plan) (effect : SessionEffect) :
    (session.apply plan effect).catalog = session.catalog := by
  cases effect <;> rfl

theorem lookup_apply (session : QuerySession) (plan : Plan) (effect : SessionEffect)
    (key : OwnerName × DictionaryId) :
    (session.apply plan effect).registry.lookup key =
      (session.registry.lookup key).or
        (if effect.key? = some key then some session.proxies.length else none) := by
  cases effect with
  | answers answer => simp [apply, SessionEffect.key?]
  | changes name proxy reply => simp [apply, SessionEffect.key?]
  | adds added proxy reply =>
      cases added with
      | none => simp [apply, SessionEffect.key?]
      | some added =>
          change (session.registry ++ [(added, session.proxies.length)]).lookup key = _
          rw [AssociationList.lookup_append_singleton]
          simp [SessionEffect.key?, eq_comm]

theorem length_le_apply (session : QuerySession) (plan : Plan) (effect : SessionEffect) :
    session.proxies.length ≤ (session.apply plan effect).proxies.length := by
  cases effect <;> simp [apply]

/-! ### The effects that a call can have -/

/-- A call only answers, and then with no proxy that is not registered; or a proxy
performs a call; or a proxy is added, whose dictionary is the catalog's or one
that the call brings along. -/
inductive Allows (session : QuerySession) (call : SessionCall) : SessionEffect → Prop
  | answers (answer : SessionAnswer)
      (registered : ∀ name, answer = .proxy name → ∃ key, session.registry.lookup key = some name) :
      Allows session call (.answers answer)
  | changes (name : ProxyName) (proxy : DictionaryProxy) (performed : ProxyCall)
      (present : session.proxy? name = some proxy) :
      Allows session call
        (.changes name (proxy.perform performed).2 (proxy.perform performed).1)
  | adds (key : Option (OwnerName × DictionaryId)) (proxy : DictionaryProxy)
      (reply : Option (Except DictionaryError ProxyAnswer))
      (named : ∀ owner dictionary, key = some (owner, dictionary) →
        dictionary = proxy.dictionary.id)
      (origin : session.catalog.get? proxy.dictionary.id = some proxy.dictionary ∨
        ∃ owner, call = .register owner proxy.dictionary) :
      Allows session call (.adds key proxy reply)

section

variable (session : QuerySession) (call : SessionCall)

private theorem allows_callEffect (name : ProxyName) (performed : ProxyCall) :
    session.Allows call (session.callEffect name performed) := by
  unfold callEffect
  cases present : session.proxy? name with
  | none => exact .answers .noProxy (by simp)
  | some proxy => exact .changes name proxy performed present

private theorem allows_requestEffect (owner : OwnerName) (stored : StringDictionary)
    (register : Bool) (origin : session.catalog.get? stored.id = some stored ∨
      ∃ owner, call = .register owner stored) :
    session.Allows call (session.requestEffect owner stored register) := by
  unfold requestEffect
  cases registered : session.registered? owner stored.id with
  | some name =>
      refine .answers (.proxy name) ?_
      rintro other ⟨⟩
      exact ⟨_, registered⟩
  | none =>
      refine .adds _ (.ofDictionary stored) none ?_ origin
      intro other dictionary same
      cases register <;> simp at same
      exact same.2.symm

private theorem allows_obtainEffect (owner : OwnerName) (dictionary : DictionaryId)
    (withTransients : Bool) :
    session.Allows call (session.obtainEffect owner dictionary withTransients) := by
  unfold obtainEffect
  cases known : session.catalog.get? dictionary with
  | none => exact .answers _ (by simp)
  | some stored =>
      have same := id_of_get? known
      exact session.allows_requestEffect call owner stored withTransients (.inl (same ▸ known))

private theorem allows_managerEffect (dictionary : DictionaryId) (performed : ProxyCall) :
    session.Allows call (session.managerEffect dictionary performed) := by
  unfold managerEffect
  cases known : session.catalog.get? dictionary with
  | none => exact .answers _ (by simp)
  | some stored =>
      have same := id_of_get? known
      cases session.registered? ownOwner dictionary with
      | some name => exact session.allows_callEffect call name performed
      | none =>
          have kept := (DictionaryProxy.ofDictionary stored).dictionary_perform performed
          refine .adds _ _ _ ?_ (.inl ?_)
          · rintro owner other ⟨⟩
            rw [kept]
            exact same.symm
          · rw [kept]
            exact same ▸ known

end

theorem allows_effect (session : QuerySession) (managed : ManagedCall) :
    session.Allows managed.call (session.effect managed) := by
  obtain ⟨plan, call⟩ := managed
  cases call with
  | resolve name arity argument =>
      rw [effect]
      cases ((CallSiteIndex.ofPlan plan).resolve name arity argument).outcome <;>
        exact .answers _ (by simp)
  | onDictionary dictionary call => exact session.allows_managerEffect _ dictionary call
  | handle dictionary => exact session.allows_obtainEffect _ ownOwner dictionary true
  | obtain owner dictionary withTransients =>
      exact session.allows_obtainEffect _ owner dictionary withTransients
  | register owner stored =>
      exact session.allows_requestEffect _ owner stored true (.inr ⟨owner, rfl⟩)
  | registered owner dictionary =>
      rw [effect]
      cases registered : session.registered? owner dictionary with
      | none => exact .answers _ (by simp)
      | some name =>
          refine .answers _ ?_
          rintro other ⟨⟩
          exact ⟨_, registered⟩
  | onProxy name call => exact session.allows_callEffect _ name call

end QuerySession

end RowFunctions

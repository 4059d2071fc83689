import RowFunctions.Proofs.ProxyIdentities

/-!
# Independent calls

A call is aimed at the proxy that an owner has or gets for a dictionary, or at a
view.  This file shows that it leaves every other pair and every other view as they
were, and that two calls with different aims can change places: both orders give
the same answers and the same session, apart from the numbers of the proxies that
the two calls create.  The effect of a call depends on what it is aimed at and on
nothing else, so that the frame of one call is what makes the other call's effect
the same before and after it.
-/

namespace RowFunctions

/-- What a call is aimed at: the registered proxy of a pair, or a view. -/
inductive CallAim where
  | pair (owner : OwnerName) (dictionary : DictionaryId)
  | view (name : ProxyName)

def SessionEffect.changed? : SessionEffect → Option ProxyName
  | .changes name _ _ => some name
  | _ => none

/-- An answer when proxies go by other numbers. -/
def SessionAnswer.rename (names : Equiv.Perm ProxyName) : SessionAnswer → SessionAnswer
  | .proxy name => .proxy (names name)
  | other => other

namespace QuerySession

def IsProxyOf (session : QuerySession) (name : ProxyName) : CallAim → Prop
  | .pair owner dictionary => session.registered? owner dictionary = some name
  | .view view => view = name ∧ session.IsView name

/-- The aims of calls.  A call on a proxy is aimed at what the proxy stands for. -/
inductive Aims (session : QuerySession) : SessionCall → CallAim → Prop
  | onDictionary (dictionary : DictionaryId) (call : ProxyCall) :
      Aims session (.onDictionary dictionary call) (.pair ownOwner dictionary)
  | handle (dictionary : DictionaryId) :
      Aims session (.handle dictionary) (.pair ownOwner dictionary)
  | obtain (owner : OwnerName) (dictionary : DictionaryId) (withTransients : Bool) :
      Aims session (.obtain owner dictionary withTransients) (.pair owner dictionary)
  | register (owner : OwnerName) (stored : StringDictionary) :
      Aims session (.register owner stored) (.pair owner stored.id)
  | registered (owner : OwnerName) (dictionary : DictionaryId) :
      Aims session (.registered owner dictionary) (.pair owner dictionary)
  | onProxy (name : ProxyName) (call : ProxyCall) (aim : CallAim)
      (proxyOf : session.IsProxyOf name aim) :
      Aims session (.onProxy name call) aim

/-- A session keeps the proxy of an aim, or keeps a pair without one. -/
structure Keeps (later earlier : QuerySession) (aim : CallAim) : Prop where
  proxies : ∀ name, earlier.IsProxyOf name aim →
    later.IsProxyOf name aim ∧ later.proxy? name = earlier.proxy? name
  absence : ∀ owner dictionary, aim = .pair owner dictionary →
    earlier.registered? owner dictionary = none → later.registered? owner dictionary = none

/-- At most one proxy differs from before, the one of the aim or a new view, and all
other aims are kept. -/
structure WorksOn (later earlier : QuerySession) (aim : CallAim) : Prop where
  catalog : later.catalog = earlier.catalog
  proxy : ∃ name, (∀ other, other ≠ name → later.proxy? other = earlier.proxy? other) ∧
    (later.proxy? name = earlier.proxy? name ∨ later.IsProxyOf name aim ∨
      earlier.proxies.length ≤ name ∧ later.IsView name)
  kept : ∀ other, other ≠ aim → later.Keeps earlier other

/-- Two calls have different aims, or each of them makes a view of its own. -/
inductive AimedApart (session : QuerySession) : SessionCall → SessionCall → Prop
  | aims {first second : SessionCall} {one two : CallAim} (firstAims : session.Aims first one)
      (secondAims : session.Aims second two) (different : one ≠ two) :
      AimedApart session first second
  | views {owner otherOwner : OwnerName} {dictionary otherDictionary : DictionaryId}
      (absent : session.registered? owner dictionary = none)
      (otherAbsent : session.registered? otherOwner otherDictionary = none) :
      AimedApart session (.obtain owner dictionary false) (.obtain otherOwner otherDictionary false)

/-- Two sessions are the same when the proxies of the one go by other numbers in the
other one.  The index is left out, since every call brings the one of its manager. -/
structure SameUpTo (names : Equiv.Perm ProxyName) (left right : QuerySession) : Prop where
  catalog : right.catalog = left.catalog
  registry : right.registry.Perm (left.registry.map fun entry => (entry.1, names entry.2))
  proxies : ∀ name, right.proxy? (names name) = left.proxy? name

/-! ### Aims of proxies -/

theorem RegistersOnce.lt_length_of_isProxyOf {session : QuerySession}
    (once : session.RegistersOnce) {name : ProxyName} {aim : CallAim}
    (proxyOf : session.IsProxyOf name aim) : name < session.proxies.length := by
  cases aim with
  | pair owner dictionary => exact once.lt_length proxyOf
  | view view => exact proxyOf.2.present

theorem RegistersOnce.aim_unique {session : QuerySession} (once : session.RegistersOnce)
    {name : ProxyName} {one two : CallAim} (first : session.IsProxyOf name one)
    (second : session.IsProxyOf name two) : one = two := by
  cases one with
  | pair owner dictionary =>
      cases two with
      | pair otherOwner otherDictionary =>
          obtain ⟨rfl, rfl⟩ := Prod.mk.inj (once.key_unique first second)
          rfl
      | view view => exact absurd first (second.2.unregistered owner dictionary)
  | view view =>
      cases two with
      | pair owner dictionary => exact absurd second (first.2.unregistered owner dictionary)
      | view other => rw [first.1, second.1]

theorem exists_aims_onProxy {session : QuerySession} {name : ProxyName}
    (present : name < session.proxies.length) (call : ProxyCall) :
    ∃ aim, session.Aims (.onProxy name call) aim := by
  by_cases registered : ∃ owner dictionary, session.registered? owner dictionary = some name
  · obtain ⟨owner, dictionary, proxyOf⟩ := registered
    exact ⟨.pair owner dictionary, .onProxy name call _ proxyOf⟩
  · push Not at registered
    exact ⟨.view name, .onProxy name call _ ⟨rfl, present, registered⟩⟩

theorem Keeps.registered?_eq {later earlier : QuerySession} {owner : OwnerName}
    {dictionary : DictionaryId} (keeps : later.Keeps earlier (.pair owner dictionary)) :
    later.registered? owner dictionary = earlier.registered? owner dictionary := by
  cases registered : earlier.registered? owner dictionary with
  | none => exact keeps.absence owner dictionary rfl registered
  | some name => exact (keeps.proxies name registered).1

/-! ### The frame of a call -/

private theorem changed?_callEffect_eq_some_iff (session : QuerySession) (name : ProxyName)
    (call : ProxyCall) (other : ProxyName) :
    (session.callEffect name call).changed? = some other ↔
      name = other ∧ name < session.proxies.length := by
  unfold callEffect proxy?
  cases present : session.proxies[name]? with
  | none =>
      have beyond := List.getElem?_eq_none_iff.mp present
      simp only [SessionEffect.changed?, reduceCtorEq, false_iff, not_and]
      exact fun _ => Nat.not_lt.mpr beyond
  | some proxy =>
      have below := (List.getElem?_eq_some_iff.mp present).1
      simp [SessionEffect.changed?, below]

private theorem changed?_requestEffect (session : QuerySession) (owner : OwnerName)
    (stored : StringDictionary) (register : Bool) :
    (session.requestEffect owner stored register).changed? = none := by
  unfold requestEffect
  cases session.registered? owner stored.id <;> rfl

private theorem changed?_obtainEffect (session : QuerySession) (owner : OwnerName)
    (dictionary : DictionaryId) (withTransients : Bool) :
    (session.obtainEffect owner dictionary withTransients).changed? = none := by
  unfold obtainEffect
  cases session.catalog.get? dictionary with
  | none => rfl
  | some stored => exact session.changed?_requestEffect owner stored withTransients

/-- A call changes no proxy but the one that it is aimed at. -/
theorem Aims.isProxyOf_of_changed? {session : QuerySession} {managed : ManagedCall}
    {aim : CallAim} (aims : session.Aims managed.call aim) {name : ProxyName}
    (changed : (session.effect managed).changed? = some name) : session.IsProxyOf name aim := by
  obtain ⟨plan, call⟩ := managed
  cases aims with
  | onDictionary dictionary call =>
      rw [effect, managerEffect] at changed
      cases known : session.catalog.get? dictionary with
      | none => simp [known, SessionEffect.changed?] at changed
      | some stored =>
          cases registered : session.registered? ownOwner dictionary with
          | none => simp [known, registered, SessionEffect.changed?] at changed
          | some other =>
              simp only [known, registered] at changed
              rw [changed?_callEffect_eq_some_iff] at changed
              exact changed.1 ▸ registered
  | handle dictionary => simp [effect, changed?_obtainEffect] at changed
  | obtain owner dictionary withTransients => simp [effect, changed?_obtainEffect] at changed
  | register owner stored => simp [effect, changed?_requestEffect] at changed
  | registered owner dictionary =>
      rw [effect] at changed
      cases registered : session.registered? owner dictionary <;>
        simp [registered, SessionEffect.changed?] at changed
  | onProxy other call _ proxyOf =>
      rw [effect, changed?_callEffect_eq_some_iff] at changed
      exact changed.1 ▸ proxyOf

/-- A call registers a proxy for nothing but the pair that it is aimed at. -/
theorem Aims.eq_of_registration? {session : QuerySession} {call : SessionCall} {aim : CallAim}
    (aims : session.Aims call aim) {owner : OwnerName} {dictionary : DictionaryId}
    (registers : call.registration? session.catalog = some (owner, dictionary)) :
    aim = .pair owner dictionary := by
  cases aims with
  | onDictionary known call | handle known =>
      rw [SessionCall.registration?, Option.map_eq_some_iff] at registers
      obtain ⟨_, -, same⟩ := registers
      obtain ⟨rfl, rfl⟩ := Prod.mk.inj same
      rfl
  | obtain other known withTransients =>
      cases withTransients with
      | true =>
          rw [SessionCall.registration?, Option.map_eq_some_iff] at registers
          obtain ⟨_, -, same⟩ := registers
          obtain ⟨rfl, rfl⟩ := Prod.mk.inj same
          rfl
      | false => simp [SessionCall.registration?] at registers
  | register other stored =>
      rw [SessionCall.registration?, Option.some.injEq, Prod.mk.injEq] at registers
      rw [registers.1, registers.2]
  | registered => simp [SessionCall.registration?] at registers
  | onProxy => simp [SessionCall.registration?] at registers

theorem proxy?_apply_of_ne (session : QuerySession) (plan : Plan) {effect : SessionEffect}
    {name : ProxyName} (unchanged : effect.changed? ≠ some name)
    (present : name < session.proxies.length) :
    (session.apply plan effect).proxy? name = session.proxy? name := by
  cases effect with
  | answers answer => rfl
  | changes other proxy reply =>
      have different : other ≠ name := fun same => unchanged (congrArg some same)
      exact List.getElem?_set_ne different
  | adds key proxy reply => exact List.getElem?_append_left present

theorem IsProxyOf.performManaged {session : QuerySession} {name : ProxyName} {aim : CallAim}
    (proxyOf : session.IsProxyOf name aim) (managed : ManagedCall) :
    (session.performManaged managed).2.IsProxyOf name aim := by
  cases aim with
  | pair owner dictionary =>
      change (session.performManaged managed).2.registered? owner dictionary = some name
      have before : session.registered? owner dictionary = some name := proxyOf
      rw [registered?_performManaged, before, Option.some_or]
  | view view => exact ⟨proxyOf.1, proxyOf.2.performManaged managed⟩

/-- The frame of a call: it keeps every aim other than its own. -/
theorem Aims.keeps {session : QuerySession} {managed : ManagedCall} {aim : CallAim}
    (aims : session.Aims managed.call aim) (once : session.RegistersOnce) {other : CallAim}
    (different : other ≠ aim) : (session.performManaged managed).2.Keeps session other where
  proxies := by
    intro name proxyOf
    refine ⟨proxyOf.performManaged managed, ?_⟩
    -- The call could only change this proxy if the proxy stood for both aims.
    rw [performManaged_eq_apply]
    refine session.proxy?_apply_of_ne managed.plan ?_ (once.lt_length_of_isProxyOf proxyOf)
    intro changed
    exact different (once.aim_unique proxyOf (aims.isProxyOf_of_changed? changed))
  absence := by
    rintro owner dictionary rfl absent
    have elsewhere : managed.call.registration? session.catalog ≠ some (owner, dictionary) :=
      fun registers => different (aims.eq_of_registration? registers).symm
    rw [registered?_performManaged, absent, if_neg elsewhere]
    rfl

/-- The proxy that a call adds is the one of its aim from then on, or it is a view. -/
theorem Aims.isProxyOf_or_isView_of_adds {session : QuerySession} {managed : ManagedCall}
    {aim : CallAim} (aims : session.Aims managed.call aim) (once : session.RegistersOnce)
    {key : Option (OwnerName × DictionaryId)} {proxy : DictionaryProxy}
    {reply : Option (Except DictionaryError ProxyAnswer)}
    (adds : session.effect managed = .adds key proxy reply) :
    (session.performManaged managed).2.IsProxyOf session.proxies.length aim ∨
      (session.performManaged managed).2.IsView session.proxies.length := by
  have keys (pair : OwnerName × DictionaryId) := session.key?_effect_eq_some_iff managed pair
  rw [adds] at keys
  cases key with
  | some pair =>
      obtain ⟨registers, absent⟩ := (keys pair).mp rfl
      rw [aims.eq_of_registration? registers]
      left
      change (session.performManaged managed).2.registered? pair.1 pair.2 = _
      rw [registered?_performManaged, if_pos registers, registered?, absent]
      rfl
  | none => exact .inr (once.isView_of_adds adds)

theorem Aims.worksOn {session : QuerySession} {managed : ManagedCall} {aim : CallAim}
    (aims : session.Aims managed.call aim) (once : session.RegistersOnce) :
    (session.performManaged managed).2.WorksOn session aim where
  catalog := session.catalog_performManaged managed
  kept := fun _ different => aims.keeps once different
  proxy := by
    cases performed : session.effect managed with
    | answers answer =>
        have same (name : ProxyName) :
            (session.performManaged managed).2.proxy? name = session.proxy? name := by
          rw [performManaged_eq_apply, performed]
          rfl
        exact ⟨0, fun other _ => same other, .inl (same 0)⟩
    | changes name proxy reply =>
        refine ⟨name, fun other different => ?_, .inr (.inl ?_)⟩
        · rw [performManaged_eq_apply, performed]
          exact List.getElem?_set_ne different.symm
        · refine (aims.isProxyOf_of_changed? ?_).performManaged managed
          rw [performed]
          rfl
    | adds key proxy reply =>
        refine ⟨session.proxies.length, fun other different => ?_, .inr ?_⟩
        · rw [performManaged_eq_apply, performed]
          change (session.proxies ++ [proxy])[other]? = session.proxies[other]?
          rcases Nat.lt_or_gt_of_ne different with below | beyond
          · exact List.getElem?_append_left below
          · rw [List.getElem?_eq_none (by simpa using beyond),
              List.getElem?_eq_none (Nat.le_of_lt beyond)]
        · exact (aims.isProxyOf_or_isView_of_adds once performed).imp_right
            fun view => ⟨Nat.le_refl _, view⟩

/-! ### What an effect depends on -/

section

variable {later earlier : QuerySession}

private theorem callEffect_congr {name : ProxyName}
    (same : later.proxy? name = earlier.proxy? name) (call : ProxyCall) :
    later.callEffect name call = earlier.callEffect name call := by
  rw [callEffect, callEffect, same]

private theorem requestEffect_congr {owner : OwnerName} {stored : StringDictionary}
    (same : later.registered? owner stored.id = earlier.registered? owner stored.id)
    (register : Bool) :
    later.requestEffect owner stored register = earlier.requestEffect owner stored register := by
  rw [requestEffect, requestEffect, same]

private theorem obtainEffect_congr (catalog : later.catalog = earlier.catalog)
    {owner : OwnerName} {dictionary : DictionaryId}
    (same : later.registered? owner dictionary = earlier.registered? owner dictionary)
    (withTransients : Bool) :
    later.obtainEffect owner dictionary withTransients =
      earlier.obtainEffect owner dictionary withTransients := by
  rw [obtainEffect, obtainEffect, catalog]
  cases known : earlier.catalog.get? dictionary with
  | none => rfl
  | some stored =>
      rw [← id_of_get? known] at same
      exact requestEffect_congr same withTransients

/-- The effect of a call depends on the catalog and on what the call is aimed at. -/
theorem Aims.effect_eq {managed : ManagedCall} {aim : CallAim}
    (aims : earlier.Aims managed.call aim) (catalog : later.catalog = earlier.catalog)
    (keeps : later.Keeps earlier aim) : later.effect managed = earlier.effect managed := by
  obtain ⟨plan, call⟩ := managed
  cases aims with
  | onDictionary dictionary call =>
      have same := keeps.registered?_eq
      rw [effect, effect, managerEffect, managerEffect, catalog, same]
      cases earlier.catalog.get? dictionary with
      | none => rfl
      | some stored =>
          cases registered : earlier.registered? ownOwner dictionary with
          | none => rfl
          | some name =>
              -- The registered proxy performs the call, so its state has to be the same too.
              exact callEffect_congr (keeps.proxies name registered).2 call
  | handle dictionary => exact obtainEffect_congr catalog keeps.registered?_eq true
  | obtain owner dictionary withTransients =>
      exact obtainEffect_congr catalog keeps.registered?_eq withTransients
  | register owner stored => exact requestEffect_congr keeps.registered?_eq true
  | registered owner dictionary => rw [effect, effect, keeps.registered?_eq]
  | onProxy name call _ proxyOf => exact callEffect_congr (keeps.proxies name proxyOf).2 call

end

theorem AimedApart.symm {session : QuerySession} {first second : SessionCall}
    (apart : session.AimedApart first second) : session.AimedApart second first := by
  cases apart with
  | aims firstAims secondAims different => exact .aims secondAims firstAims different.symm
  | views absent otherAbsent => exact .views otherAbsent absent

/-- A call has the same effect before and after a call that is aimed elsewhere. -/
theorem AimedApart.effect_eq {session : QuerySession} {first second : ManagedCall}
    (apart : session.AimedApart first.call second.call) (once : session.RegistersOnce) :
    (session.performManaged second).2.effect first = session.effect first := by
  have catalog := session.catalog_performManaged second
  obtain ⟨plan, call⟩ := first
  obtain ⟨otherPlan, otherCall⟩ := second
  cases apart with
  | aims firstAims secondAims different =>
      exact firstAims.effect_eq catalog (secondAims.keeps once different)
  | views absent otherAbsent =>
      refine obtainEffect_congr catalog ?_ false
      rw [registered?_performManaged]
      simp [SessionCall.registration?]

theorem AimedApart.performManaged_after {session : QuerySession} {first second : ManagedCall}
    (apart : session.AimedApart first.call second.call) (once : session.RegistersOnce) :
    (session.performManaged second).2.performManaged first =
      (answerTo (session.apply second.plan (session.effect second)).proxies.length
          (session.effect first),
        (session.apply second.plan (session.effect second)).apply first.plan
          (session.effect first)) := by
  rw [performManaged_eq_apply _ first, apart.effect_eq once, performManaged_eq_apply session second]

theorem AimedApart.changed?_ne {session : QuerySession} {first second : ManagedCall}
    (apart : session.AimedApart first.call second.call) (once : session.RegistersOnce)
    {name : ProxyName} (changed : (session.effect first).changed? = some name) :
    (session.effect second).changed? ≠ some name := by
  intro alsoChanged
  obtain ⟨plan, call⟩ := first
  obtain ⟨otherPlan, otherCall⟩ := second
  cases apart with
  | aims firstAims secondAims different =>
      exact different (once.aim_unique (firstAims.isProxyOf_of_changed? changed)
        (secondAims.isProxyOf_of_changed? alsoChanged))
  | views absent otherAbsent => simp [effect, changed?_obtainEffect] at changed

/-! ### Changing the places of two effects -/

/-- The renaming between two orders of effects: if each adds a proxy, the two new
numbers are exchanged. -/
def exchange (session : QuerySession) : SessionEffect → SessionEffect → Equiv.Perm ProxyName
  | .adds .., .adds .. => Equiv.swap session.proxies.length (session.proxies.length + 1)
  | _, _ => 1

private theorem swap_of_lt {fresh name : Nat} (present : name < fresh) :
    Equiv.swap fresh (fresh + 1) name = name :=
  Equiv.swap_apply_of_ne_of_ne (Nat.ne_of_lt present) (Nat.ne_of_lt (Nat.lt_succ_of_lt present))

theorem exchange_of_lt (session : QuerySession) (one two : SessionEffect) {name : ProxyName}
    (present : name < session.proxies.length) : session.exchange one two name = name := by
  cases one <;> cases two <;> try rfl
  exact swap_of_lt present

@[simp]
theorem rename_one (answer : SessionAnswer) : answer.rename 1 = answer := by
  cases answer <;> rfl

@[simp]
theorem rename_answerOf (names : Equiv.Perm ProxyName)
    (reply : Except DictionaryError ProxyAnswer) :
    (answerOf reply).rename names = answerOf reply := by
  cases reply <;> rfl

theorem answerTo_apply (session : QuerySession) (plan : Plan) (one two : SessionEffect) :
    answerTo (session.apply plan two).proxies.length one =
      (answerTo session.proxies.length one).rename (session.exchange one two) := by
  cases one with
  | answers answer => simp [exchange, answerTo]
  | changes name proxy reply => simp [answerTo]
  | adds key proxy reply =>
      cases reply with
      | some reply => simp [answerTo]
      | none =>
          cases two <;> simp [exchange, answerTo, apply, SessionAnswer.rename]

theorem answerTo_apply_rename (session : QuerySession) (plan : Plan) (one two : SessionEffect) :
    (answerTo (session.apply plan one).proxies.length two).rename (session.exchange one two) =
      answerTo session.proxies.length two := by
  cases two with
  | answers answer => cases one <;> simp [exchange, answerTo]
  | changes name proxy reply => simp [answerTo]
  | adds key proxy reply =>
      cases reply with
      | some reply => simp [answerTo]
      | none =>
          cases one <;> simp [exchange, answerTo, apply, SessionAnswer.rename]

theorem sameUpTo_one {left right : QuerySession} (catalog : right.catalog = left.catalog)
    (registry : right.registry = left.registry) (proxies : right.proxies = left.proxies) :
    SameUpTo 1 left right where
  catalog := catalog
  registry := by simp [registry]
  proxies := fun name => congrArg (fun proxies => proxies[name]?) proxies

/-- Two new proxies come in either order, with their numbers exchanged. -/
theorem sameUpTo_adds {session : QuerySession} (once : session.RegistersOnce) (plan other : Plan)
    (firstKey secondKey : Option (OwnerName × DictionaryId)) (one two : DictionaryProxy)
    (firstReply secondReply : Option (Except DictionaryError ProxyAnswer)) :
    SameUpTo (Equiv.swap session.proxies.length (session.proxies.length + 1))
      ((session.apply plan (.adds firstKey one firstReply)).apply other
        (.adds secondKey two secondReply))
      ((session.apply other (.adds secondKey two secondReply)).apply plan
        (.adds firstKey one firstReply)) where
  catalog := rfl
  registry := by
    have old : (session.registry.map fun entry => (entry.1,
        Equiv.swap session.proxies.length (session.proxies.length + 1) entry.2)) =
          session.registry := by
      refine (List.map_congr_left fun entry listed => ?_).trans (List.map_id _)
      rw [swap_of_lt (once.bounded entry listed), id]
    -- Only when both are registered do the two new entries come in another order.
    cases firstKey with
    | none => cases secondKey <;> simp [apply, old]
    | some first =>
        cases secondKey with
        | none => simp [apply, old]
        | some second =>
            simp only [apply, old, Option.map_some, Option.toList_some, List.length_append,
              List.length_singleton, List.append_assoc, List.singleton_append, List.map_append,
              List.map_cons, List.map_nil, Equiv.swap_apply_left, Equiv.swap_apply_right]
            exact (List.Perm.swap _ _ _).append_left _
  proxies := by
    intro name
    change (session.proxies ++ [two] ++ [one])[_]? = (session.proxies ++ [one] ++ [two])[name]?
    rcases Nat.lt_trichotomy name session.proxies.length with below | rfl | beyond
    · rw [swap_of_lt below]
      simp [List.getElem?_append_left, below]
    · simp
    · rcases Nat.eq_or_lt_of_le beyond with rfl | farther
      · simp
      · rw [Equiv.swap_apply_of_ne_of_ne (Nat.ne_of_gt beyond) (Nat.ne_of_gt farther)]
        have bounded (first second : DictionaryProxy) :
            (session.proxies ++ [first] ++ [second]).length ≤ name := by
          rw [List.length_append, List.length_append, List.length_singleton, List.length_singleton]
          exact farther
        rw [List.getElem?_eq_none (bounded two one), List.getElem?_eq_none (bounded one two)]

/-- Two effects that do not change one proxy can change places. -/
theorem sameUpTo_apply {session : QuerySession} (once : session.RegistersOnce)
    (plan other : Plan) {one two : SessionEffect}
    (firstPresent : ∀ name, one.changed? = some name → name < session.proxies.length)
    (secondPresent : ∀ name, two.changed? = some name → name < session.proxies.length)
    (apart : ∀ name, one.changed? = some name → two.changed? ≠ some name) :
    SameUpTo (session.exchange one two) ((session.apply plan one).apply other two)
      ((session.apply other two).apply plan one) := by
  cases one with
  | answers answer => cases two <;> exact sameUpTo_one rfl rfl rfl
  | changes name proxy reply =>
      cases two with
      | answers answer => exact sameUpTo_one rfl rfl rfl
      | changes otherName otherProxy otherReply =>
          have different : name ≠ otherName := fun same => apart name rfl (congrArg some same.symm)
          exact sameUpTo_one rfl rfl (List.set_comm otherProxy proxy different.symm)
      | adds key added otherReply =>
          -- The changed proxy stands before the new one, in either order.
          have present := firstPresent name rfl
          refine sameUpTo_one rfl ?_ ?_
          · simp [apply]
          · exact List.set_append_left name proxy present
  | adds key added reply =>
      cases two with
      | answers answer => exact sameUpTo_one rfl rfl rfl
      | changes name proxy otherReply =>
          have present := secondPresent name rfl
          refine sameUpTo_one rfl ?_ ?_
          · simp [apply]
          · exact (List.set_append_left name proxy present).symm
      | adds otherKey otherAdded otherReply =>
          exact sameUpTo_adds once plan other key otherKey added otherAdded reply otherReply

theorem lt_length_of_changed? {session : QuerySession} {managed : ManagedCall}
    {name : ProxyName} (changed : (session.effect managed).changed? = some name) :
    name < session.proxies.length := by
  have allowed := session.allows_effect managed
  generalize session.effect managed = effect at allowed changed
  cases allowed with
  | answers answer registered => contradiction
  | changes other proxy performed present =>
      injection changed with same
      exact same ▸ (List.getElem?_eq_some_iff.mp present).1
  | adds key proxy reply named origin => contradiction

/-- In every state of a session, a call is aimed at the proxy of one pair or at one
view, unless it goes to a proxy that does not exist.  It changes at most that proxy
or makes a new one, and keeps the registered proxy of every other pair and every
other view with dictionary and transient strings.  Two calls that are aimed apart
give the same answers in either order and leave the same session, up to the numbers
of the proxies that they make. -/
theorem calls_aimed_apart_commute (plan : Plan) (catalog : DictionaryCatalog)
    (calls : List ManagedCall) :
    let session := (start plan catalog).after calls
    (∀ name call, name < session.proxies.length → ∃ aim, session.Aims (.onProxy name call) aim) ∧
    (∀ managed aim, session.Aims managed.call aim →
      (session.performManaged managed).2.WorksOn session aim) ∧
    ∀ first second, session.AimedApart first.call second.call →
      ∃ names : Equiv.Perm ProxyName, (∀ name < session.proxies.length, names name = name) ∧
        let afterFirst := session.performManaged first
        let afterSecond := session.performManaged second
        (afterSecond.2.performManaged first).1 = afterFirst.1.rename names ∧
        afterSecond.1 = (afterFirst.2.performManaged second).1.rename names ∧
        SameUpTo names (afterFirst.2.performManaged second).2
          (afterSecond.2.performManaged first).2 := by
  intro session
  have once : session.RegistersOnce := (registersOnce_start plan catalog).after calls
  refine ⟨fun name call present => exists_aims_onProxy present call,
    fun managed aim aims => aims.worksOn once, fun first second apart => ?_⟩
  refine ⟨session.exchange (session.effect first) (session.effect second),
    fun name present => session.exchange_of_lt _ _ present, ?_⟩
  intro afterFirst afterSecond
  rw [apart.performManaged_after once, apart.symm.performManaged_after once]
  rw [show afterFirst = _ from session.performManaged_eq_apply first,
    show afterSecond = _ from session.performManaged_eq_apply second]
  refine ⟨session.answerTo_apply second.plan _ _,
    (session.answerTo_apply_rename first.plan _ _).symm,
    sameUpTo_apply once first.plan second.plan ?_ ?_ ?_⟩
  · exact fun name changed => lt_length_of_changed? changed
  · exact fun name changed => lt_length_of_changed? changed
  · exact fun name changed => apart.changed?_ne once changed

/-- Two calls that register proxies exchange their numbers.  A failing call that
registers one leaves the view of another dictionary alone. -/
theorem calls_aimed_apart_commute_when_registering :
    let stored : StringDictionary := ⟨1, ⟨["alpha"], [("alpha", 0)]⟩⟩
    let catalog : DictionaryCatalog := ⟨[stored, ⟨2, ⟨[], []⟩⟩]⟩
    let first : ManagedCall := ⟨⟨[]⟩, .obtain ownOwner 1 true⟩
    let second : ManagedCall := ⟨⟨[]⟩, .register 3 stored⟩
    let failing : ManagedCall := ⟨⟨[]⟩, .onDictionary 2 (.string 5)⟩
    let session := (start ⟨[]⟩ catalog).after [⟨⟨[]⟩, .obtain ownOwner 1 false⟩]
    session.IsView 0 ∧ (session.performManaged failing).2.Keeps session (.view 0) ∧
      (session.performManaged first).1 = .proxy 1 ∧
      session.AimedApart first.call second.call ∧
      ∃ names : Equiv.Perm ProxyName, names 0 = 0 ∧ names 1 = 2 ∧
        SameUpTo names ((session.performManaged first).2.performManaged second).2
          ((session.performManaged second).2.performManaged first).2 := by
  intro stored catalog first second failing session
  have known : (start ⟨[]⟩ catalog).catalog.get? 1 = some stored := by decide
  have view : session.IsView 0 :=
    (registersOnce_start ⟨[]⟩ catalog).isView_of_obtain known (by decide) ⟨[]⟩
  have apart : session.AimedApart first.call second.call :=
    .aims (.obtain ownOwner 1 true) (.register 3 stored) (by simp [ownOwner])
  obtain ⟨-, works, commute⟩ := calls_aimed_apart_commute ⟨[]⟩ catalog
    [⟨⟨[]⟩, .obtain ownOwner 1 false⟩]
  obtain ⟨names, fixed, answered, -, same⟩ := commute first second apart
  have kept := (works failing _ (.onDictionary 2 (.string 5))).kept (.view 0) (by simp)
  refine ⟨view, kept, by decide, apart, names, fixed 0 (by decide), ?_, same⟩
  have later : ((session.performManaged second).2.performManaged first).1 = .proxy 2 := by decide
  have earlier : (session.performManaged first).1 = .proxy 1 := by decide
  rw [later, earlier, SessionAnswer.rename, SessionAnswer.proxy.injEq] at answered
  exact answered.symm

end QuerySession

end RowFunctions

import RowFunctions.Proofs.ProxyIdentities
import RowFunctions.Proofs.SessionHistories
import RowFunctions.Proofs.StoredStrings

/-!
# Standalone views

A request without transient strings may be answered by a proxy that is registered
nowhere.  Such a view is meant for reading, but it interns like every proxy, and
then it counts its transient strings from the first identifier again.  This file
shows what follows: two proxies of one dictionary that a session handed out for one
owner agree on every transient identifier as long as the views among them were
only read, and a view into which a string was interned breaks this.
-/

namespace RowFunctions

/-- A proxy without transient strings decodes no negative identifier. -/
theorem DictionaryProxy.getString_ne_ok_of_transientCount_eq_zero {proxy : DictionaryProxy}
    (none_transient : proxy.transientCount = 0) {id : StringId} (negative : id < 0)
    (value : String) : proxy.getString id ≠ .ok value := by
  have no_string (index : Nat) : proxy.transients.getAt? index = none := by
    have empty : proxy.transients.strings = [] := List.length_eq_zero_iff.mp none_transient
    simp [StringTable.getAt?, empty]
  rw [getString, if_neg (Int32.not_le.mpr negative)]
  cases StringId.transientIndex? id with
  | none => simp
  | some index => simp [no_string index]

namespace QuerySession

/-- A call of a run asks for the proxy of a dictionary of the catalog, with or
without transient strings, and is answered with a proxy. -/
def Obtains (session : QuerySession) (owner : OwnerName) (dictionary : DictionaryId)
    (name : ProxyName) (calls : List ManagedCall) : Prop :=
  ∃ earlier plan withTransients later,
    calls = earlier ++ ⟨plan, .obtain owner dictionary withTransients⟩ :: later ∧
      ((session.after earlier).performManaged
        ⟨plan, .obtain owner dictionary withTransients⟩).1 = .proxy name

/-- No call of a run interns a string into a proxy that its dictionary does not
hold. -/
def OnlyReads (session : QuerySession) (name : ProxyName) (calls : List ManagedCall) : Prop :=
  ∀ proxy, (session.after calls).proxy? name = some proxy →
    proxy.dictionary.newValues (session.internedInto name calls) = ∅

/-- The proxy with a number is registered nowhere and one of a dictionary. -/
structure IsViewOf (session : QuerySession) (name : ProxyName) (stored : StringDictionary) :
    Prop where
  view : session.IsView name
  dictionary : ∃ proxy, session.proxy? name = some proxy ∧ proxy.dictionary = stored

theorem IsViewOf.after {session : QuerySession} {name : ProxyName} {stored : StringDictionary}
    (view : session.IsViewOf name stored) (wellRegistered : session.IsRegistered)
    (calls : List ManagedCall) : (session.after calls).IsViewOf name stored where
  view := view.view.after calls
  dictionary := by
    obtain ⟨proxy, present, same⟩ := view.dictionary
    obtain ⟨next, nextPresent, kept⟩ := (wellRegistered.after calls).2.proxies name proxy present
    exact ⟨next, nextPresent, kept.trans same⟩

theorem exists_get?_of_obtain {session : QuerySession} {plan : Plan} {owner : OwnerName}
    {dictionary : DictionaryId} {withTransients : Bool} {name : ProxyName}
    (answered : (session.performManaged ⟨plan, .obtain owner dictionary withTransients⟩).1 =
      .proxy name) : ∃ stored, session.catalog.get? dictionary = some stored := by
  cases known : session.catalog.get? dictionary with
  | some stored => exact ⟨stored, rfl⟩
  | none =>
      have unknown : { session with index := CallSiteIndex.ofPlan plan }.catalog.get? dictionary =
          none := known
      rw [performManaged, perform_obtain_of_unknown unknown] at answered
      contradiction

/-- The answer to a request for a proxy of a known dictionary is registered from
then on, or it is a view. -/
theorem RegistersOnce.obtain_cases {session : QuerySession} (once : session.RegistersOnce)
    (wellRegistered : session.IsRegistered) {owner : OwnerName} {dictionary : DictionaryId}
    {stored : StringDictionary} (known : session.catalog.get? dictionary = some stored)
    {plan : Plan} {withTransients : Bool} {name : ProxyName}
    (answered : (session.performManaged ⟨plan, .obtain owner dictionary withTransients⟩).1 =
      .proxy name) :
    let next := (session.performManaged ⟨plan, .obtain owner dictionary withTransients⟩).2
    next.registered? owner dictionary = some name ∨ next.IsViewOf name stored := by
  intro next
  cases registered : session.registered? owner dictionary with
  | some present =>
      have requests : (ManagedCall.mk plan (.obtain owner dictionary withTransients)).call.Requests
          owner dictionary := .obtain owner dictionary withTransients
      rcases performManaged_of_requests registered requests with same | ⟨unknown, -⟩
      · rw [answered, SessionAnswer.proxy.injEq] at same
        subst same
        exact .inl ((wellRegistered.performManaged _).2.registered owner dictionary name registered)
      · rw [known] at unknown
        contradiction
  | none =>
      cases withTransients with
      | true =>
          have registers : (ManagedCall.mk plan (.obtain owner dictionary true)).call.registration?
              session.catalog = some (owner, dictionary) := by
            simp [SessionCall.registration?, known]
          obtain ⟨fresh, present, answers⟩ := performManaged_of_registration registers
          rw [answers (.obtain owner dictionary true), SessionAnswer.proxy.injEq] at answered
          exact .inl (answered ▸ present)
      | false =>
          have view := once.isView_of_obtain known registered plan
          have added := performManaged_obtain_view known registered plan
          rw [added, SessionAnswer.proxy.injEq] at answered
          subst answered
          refine .inr ⟨view, .ofDictionary stored, ?_, rfl⟩
          rw [show next = _ from congrArg Prod.snd added]
          simp [QuerySession.apply, proxy?]

section

variable {plan : Plan} {catalog : DictionaryCatalog} {owner : OwnerName}
  {dictionary : DictionaryId} {calls : List ManagedCall}

/-- A proxy that a run obtained is the registered one in the end, or a view of the
catalog's dictionary. -/
theorem Obtains.cases {name : ProxyName}
    (obtains : (start plan catalog).Obtains owner dictionary name calls) :
    let session := (start plan catalog).after calls
    session.registered? owner dictionary = some name ∨
      ∃ stored, catalog.get? dictionary = some stored ∧ session.IsViewOf name stored := by
  obtain ⟨earlier, manager, withTransients, later, rfl, answered⟩ := obtains
  intro session
  have once := (registersOnce_start plan catalog).after earlier
  have wellRegistered := ((isRegistered_start plan catalog).after earlier).1
  have next := wellRegistered.performManaged ⟨manager, .obtain owner dictionary withTransients⟩
  have split : session = ((((start plan catalog).after earlier).performManaged
      ⟨manager, .obtain owner dictionary withTransients⟩).2).after later := after_append _ _ _
  obtain ⟨stored, known⟩ := exists_get?_of_obtain answered
  rw [split]
  rcases once.obtain_cases wellRegistered known answered with registered | view
  · exact .inl ((next.1.after later).2.registered owner dictionary name registered)
  · rw [catalog_after] at known
    exact .inr ⟨stored, known, view.after next.1 later⟩

theorem Obtains.exists_proxy {name : ProxyName}
    (obtains : (start plan catalog).Obtains owner dictionary name calls) :
    ∃ proxy, ((start plan catalog).after calls).proxy? name = some proxy ∧
      ((start plan catalog).RegistersFromCatalog owner calls →
        catalog.get? dictionary = some proxy.dictionary) := by
  have wellRegistered := isRegistered_start plan catalog
  rcases obtains.cases with registered | ⟨stored, known, view⟩
  · obtain ⟨proxy, present, -⟩ := (wellRegistered.after calls).1 owner dictionary name registered
    refine ⟨proxy, present, fun fromCatalog => ?_⟩
    obtain ⟨found, foundPresent, same⟩ :=
      (usesCatalog_start plan catalog owner).after wellRegistered fromCatalog dictionary name
        registered
    rw [present, Option.some.injEq] at foundPresent
    rw [catalog_after, ← foundPresent] at same
    exact same
  · obtain ⟨proxy, present, same⟩ := view.dictionary
    exact ⟨proxy, present, fun _ => same ▸ known⟩

/-- Of two proxies that a run obtained for one pair at least one is a view, unless
they are the same. -/
theorem Obtains.eq_or_isView {first second : ProxyName}
    (firstObtained : (start plan catalog).Obtains owner dictionary first calls)
    (secondObtained : (start plan catalog).Obtains owner dictionary second calls) :
    first = second ∨ ((start plan catalog).after calls).IsView first ∨
      ((start plan catalog).after calls).IsView second := by
  rcases firstObtained.cases with registered | ⟨stored, -, view⟩
  · rcases secondObtained.cases with same | ⟨stored, -, view⟩
    · exact .inl (Option.some.inj (registered.symm.trans same))
    · exact .inr (.inr view.view)
  · exact .inr (.inl view.view)

theorem OnlyReads.getString_ne_ok {name : ProxyName}
    (reads : (start plan catalog).OnlyReads name calls) {proxy : DictionaryProxy}
    (present : ((start plan catalog).after calls).proxy? name = some proxy)
    {id : StringId} (negative : id < 0) (value : String) : proxy.getString id ≠ .ok value := by
  have nothing_new := reads proxy present
  have room : ((start plan catalog).after calls).LeavesRoom name
      ((start plan catalog).internedInto name calls) := by
    intro found foundPresent
    rw [present, Option.some.injEq] at foundPresent
    subst foundPresent
    simp [StringDictionary.HasRoom, nothing_new]
  have counted := ((tracks_after_start room).records proxy present).transientCount_eq
  rw [nothing_new, Finset.card_empty] at counted
  exact proxy.getString_ne_ok_of_transientCount_eq_zero counted negative value

end

/-- In every session, two proxies that were handed out for one dictionary and one
owner decode no transient identifier to different strings, as long as the views
among them were only read.  If the owner only registers dictionaries of the catalog,
they decode no identifier at all to different strings. -/
theorem obtained_proxies_agree {plan : Plan} {catalog : DictionaryCatalog}
    {calls : List ManagedCall} {owner : OwnerName} {dictionary : DictionaryId}
    {first second : ProxyName}
    (firstObtained : (start plan catalog).Obtains owner dictionary first calls)
    (secondObtained : (start plan catalog).Obtains owner dictionary second calls)
    (viewsOnlyRead : ∀ view, view = first ∨ view = second →
      ((start plan catalog).after calls).IsView view → (start plan catalog).OnlyReads view calls) :
    ∃ one two, ((start plan catalog).after calls).proxy? first = some one ∧
      ((start plan catalog).after calls).proxy? second = some two ∧
      ∀ id, id < 0 ∨ (start plan catalog).RegistersFromCatalog owner calls →
        ∀ value other, one.getString id = .ok value → two.getString id = .ok other →
          value = other := by
  obtain ⟨one, onePresent, oneStored⟩ := firstObtained.exists_proxy
  obtain ⟨two, twoPresent, twoStored⟩ := secondObtained.exists_proxy
  refine ⟨one, two, onePresent, twoPresent, fun id condition value other decoded otherDecoded => ?_⟩
  by_cases negative : id < 0
  · -- Different proxies are one view at least, and a view that was read decodes nothing here.
    rcases firstObtained.eq_or_isView secondObtained with rfl | view | view
    · rw [onePresent, Option.some.injEq] at twoPresent
      rw [← twoPresent, decoded] at otherDecoded
      exact Except.ok.inj otherDecoded
    · have reads := viewsOnlyRead first (.inl rfl) view
      exact absurd decoded (reads.getString_ne_ok onePresent negative value)
    · have reads := viewsOnlyRead second (.inr rfl) view
      exact absurd otherDecoded (reads.getString_ne_ok twoPresent negative other)
  · -- Both are proxies of the catalog's dictionary, which alone decodes the identifier.
    have fromCatalog := condition.resolve_left negative
    have same : one.dictionary = two.dictionary :=
      Option.some.inj ((oneStored fromCatalog).symm.trans (twoStored fromCatalog))
    have nonneg : 0 ≤ id := Int32.not_lt.mp negative
    rw [one.getString_of_nonneg nonneg, same, ← two.getString_of_nonneg nonneg, otherDecoded]
      at decoded
    exact (Except.ok.inj decoded).symm

/-- A view that was read, the registered proxy with a string of its own, and the
proxy for reading that is the registered one by then. -/
theorem obtained_proxies_agree_after_reading :
    let catalog : DictionaryCatalog := ⟨[⟨1, ⟨["alpha"], [("alpha", 0)]⟩⟩]⟩
    let calls : List ManagedCall := [⟨⟨[]⟩, .obtain ownOwner 1 false⟩,
      ⟨⟨[]⟩, .obtain ownOwner 1 true⟩, ⟨⟨[]⟩, .onProxy 0 (.internAll ["alpha", "alpha"])⟩,
      ⟨⟨[]⟩, .onDictionary 1 (.intern "beta")⟩, ⟨⟨[]⟩, .obtain ownOwner 1 false⟩]
    (start ⟨[]⟩ catalog).Obtains ownOwner 1 0 calls ∧
      (start ⟨[]⟩ catalog).Obtains ownOwner 1 1 calls ∧
      (start ⟨[]⟩ catalog).OnlyReads 0 calls ∧
      (start ⟨[]⟩ catalog).RegistersFromCatalog ownOwner calls ∧
      ∃ view registered, ((start ⟨[]⟩ catalog).after calls).proxy? 0 = some view ∧
        ((start ⟨[]⟩ catalog).after calls).proxy? 1 = some registered ∧
        registered.getString (-2) = .ok "beta" ∧
        ∀ id value other, view.getString id = .ok value → registered.getString id = .ok other →
          value = other := by
  intro catalog calls
  have viewed : (start ⟨[]⟩ catalog).Obtains ownOwner 1 0 calls :=
    ⟨[], ⟨[]⟩, false, calls.tail, rfl, by decide⟩
  have registered : (start ⟨[]⟩ catalog).Obtains ownOwner 1 1 calls :=
    ⟨calls.take 4, ⟨[]⟩, false, [], rfl, by decide⟩
  have reads : (start ⟨[]⟩ catalog).OnlyReads 0 calls := by
    intro proxy present
    have same : some _ = some proxy := present
    rw [← Option.some.inj same]
    decide
  have fromCatalog : (start ⟨[]⟩ catalog).RegistersFromCatalog ownOwner calls := by
    refine ⟨by simp, by simp, by simp, by simp, by simp, trivial⟩
  have named : ((start ⟨[]⟩ catalog).after calls).registered? ownOwner 1 = some 1 := by decide
  have viewsOnlyRead : ∀ view, view = 0 ∨ view = 1 →
      ((start ⟨[]⟩ catalog).after calls).IsView view →
        (start ⟨[]⟩ catalog).OnlyReads view calls := by
    rintro view (rfl | rfl) isView
    · exact reads
    · exact absurd named (isView.unregistered ownOwner 1)
  obtain ⟨one, two, onePresent, twoPresent, agree⟩ :=
    obtained_proxies_agree viewed registered viewsOnlyRead
  refine ⟨viewed, registered, reads, fromCatalog, one, two, onePresent, twoPresent, ?_, ?_⟩
  · have same : some _ = some two := twoPresent
    rw [← Option.some.inj same]
    decide
  · exact fun id => agree id (.inr fromCatalog)

/-- A view into which a string was interned gives it the identifier that the
registered proxy gives to another string. -/
theorem interned_views_disagree :
    let catalog : DictionaryCatalog := ⟨[⟨1, ⟨["alpha"], [("alpha", 0)]⟩⟩]⟩
    let calls : List ManagedCall := [⟨⟨[]⟩, .obtain ownOwner 1 false⟩,
      ⟨⟨[]⟩, .obtain ownOwner 1 true⟩, ⟨⟨[]⟩, .onProxy 1 (.intern "beta")⟩,
      ⟨⟨[]⟩, .onProxy 0 (.intern "gamma")⟩]
    let session := (start ⟨[]⟩ catalog).after calls
    (start ⟨[]⟩ catalog).Obtains ownOwner 1 0 calls ∧
      (start ⟨[]⟩ catalog).Obtains ownOwner 1 1 calls ∧
      (session.performManaged ⟨⟨[]⟩, .onProxy 0 (.string (-2))⟩).1 = .answer (.string "gamma") ∧
      (session.performManaged ⟨⟨[]⟩, .onProxy 1 (.string (-2))⟩).1 = .answer (.string "beta") := by
  intro catalog calls session
  refine ⟨⟨[], ⟨[]⟩, false, calls.tail, rfl, by decide⟩,
    ⟨calls.take 1, ⟨[]⟩, true, calls.drop 2, rfl, by decide⟩, by decide, by decide⟩

end QuerySession

end RowFunctions

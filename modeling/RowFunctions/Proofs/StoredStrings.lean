import RowFunctions.Proofs.CatalogDocuments
import RowFunctions.Proofs.ProxyRegistration

/-!
# Stored strings in a session

Whatever a session does, a function that decodes an identifier from `0` upwards
sees the dictionary document.  Two facts carry this.  The catalog never changes,
and as long as an owner is only given dictionaries of the catalog, each proxy that
it registers is one of the catalog's dictionary, however it came to be registered
and whatever was interned into it.
-/

namespace RowFunctions

/-- An identifier that is not negative is decoded by the dictionary alone. -/
theorem DictionaryProxy.getString_of_nonneg (proxy : DictionaryProxy) {id : StringId}
    (nonneg : 0 ≤ id) :
    proxy.getString id =
      match proxy.dictionary.strings[id.toInt.toNat]? with
      | some value => .ok value
      | none => .error (.unknownString proxy.dictionary.id id) := by
  rw [getString, if_pos nonneg, StringDictionary.getString?, if_pos nonneg]
  rfl

namespace QuerySession

/-- Whenever calls register a dictionary with an owner, it is the catalog's. -/
def RegistersFromCatalog (session : QuerySession) (owner : OwnerName) : List ManagedCall → Prop
  | [] => True
  | managed :: calls =>
      (∀ stored, managed.call = .register owner stored →
        session.registered? owner stored.id = none →
          session.catalog.get? stored.id = some stored) ∧
      RegistersFromCatalog (session.performManaged managed).2 owner calls

/-- The proxies of an owner are proxies of the catalog's dictionaries. -/
def UsesCatalog (session : QuerySession) (owner : OwnerName) : Prop :=
  ∀ dictionary name, session.registered? owner dictionary = some name →
    ∃ proxy, session.proxy? name = some proxy ∧
      session.catalog.get? dictionary = some proxy.dictionary

theorem usesCatalog_start (plan : Plan) (catalog : DictionaryCatalog) (owner : OwnerName) :
    (start plan catalog).UsesCatalog owner := by
  intro dictionary name registered
  simp [start, registered?] at registered

/-- A proxy that a call registers is one of the catalog's dictionary, unless the
call brings the dictionary along. -/
theorem proxy?_of_registration {session : QuerySession} {managed : ManagedCall}
    {owner : OwnerName} {dictionary : DictionaryId}
    (absent : session.registered? owner dictionary = none)
    (registers : managed.call.registration? session.catalog = some (owner, dictionary)) :
    ∃ proxy, (session.performManaged managed).2.proxy? session.proxies.length = some proxy ∧
      proxy.dictionary.id = dictionary ∧
      (session.catalog.get? dictionary = some proxy.dictionary ∨
        managed.call = .register owner proxy.dictionary) := by
  have added := (session.key?_effect_eq_some_iff managed (owner, dictionary)).mpr
    ⟨registers, absent⟩
  have allowed := session.allows_effect managed
  rw [performManaged_eq_apply]
  generalize session.effect managed = effect at added allowed ⊢
  cases allowed with
  | answers answer registered => contradiction
  | changes name proxy performed present => contradiction
  | adds key proxy reply named origin =>
      change key = some (owner, dictionary) at added
      have same := named owner dictionary added
      refine ⟨proxy, by simp [apply, proxy?], same.symm, ?_⟩
      rcases origin with known | ⟨other, brought⟩
      · exact .inl (same ▸ known)
      · right
        rw [brought, SessionCall.registration?, Option.some.injEq, Prod.mk.injEq] at registers
        rw [brought, registers.1]

theorem UsesCatalog.performManaged {session : QuerySession} {owner : OwnerName}
    (uses : session.UsesCatalog owner) (wellRegistered : session.IsRegistered)
    {managed : ManagedCall}
    (fromCatalog : ∀ stored, managed.call = .register owner stored →
      session.registered? owner stored.id = none →
        session.catalog.get? stored.id = some stored) :
    (session.performManaged managed).2.UsesCatalog owner := by
  intro dictionary name registered
  rw [catalog_performManaged]
  rw [registered?_performManaged, Option.or_eq_some_iff] at registered
  rcases registered with before | ⟨absent, added⟩
  · -- A registered proxy keeps its dictionary.
    obtain ⟨proxy, present, known⟩ := uses dictionary name before
    obtain ⟨next, nextPresent, same⟩ :=
      (wellRegistered.performManaged managed).2.proxies name proxy present
    exact ⟨next, nextPresent, same ▸ known⟩
  · rw [Option.ite_none_right_eq_some, Option.some.injEq] at added
    obtain ⟨registers, rfl⟩ := added
    obtain ⟨proxy, present, sameId, known | brought⟩ := proxy?_of_registration absent registers
    · exact ⟨proxy, present, known⟩
    · subst sameId
      exact ⟨proxy, present, fromCatalog proxy.dictionary brought absent⟩

theorem UsesCatalog.after {session : QuerySession} {owner : OwnerName}
    (uses : session.UsesCatalog owner) (wellRegistered : session.IsRegistered)
    {calls : List ManagedCall} (fromCatalog : session.RegistersFromCatalog owner calls) :
    (session.after calls).UsesCatalog owner := by
  induction calls generalizing session with
  | nil => exact uses
  | cons managed calls ih =>
      exact ih (uses.performManaged wellRegistered fromCatalog.1)
        (wellRegistered.performManaged managed).1 fromCatalog.2

/-- A call through a manager is answered by a proxy of the catalog's dictionary. -/
theorem UsesCatalog.exists_proxy {session : QuerySession} (uses : session.UsesCatalog ownOwner)
    {dictionary : DictionaryId} {stored : StringDictionary}
    (known : session.catalog.get? dictionary = some stored) (plan : Plan) (call : ProxyCall) :
    ∃ proxy : DictionaryProxy, proxy.dictionary = stored ∧
      (session.performManaged ⟨plan, .onDictionary dictionary call⟩).1 =
        answerOf (proxy.perform call).1 := by
  rw [performManaged_eq_apply, effect, managerEffect, known]
  cases registered : session.registered? ownOwner dictionary with
  | some name =>
      obtain ⟨proxy, present, same⟩ := uses dictionary name registered
      refine ⟨proxy, Option.some.inj (same.symm.trans known), ?_⟩
      simp [callEffect, present, answerTo]
  | none => exact ⟨.ofDictionary stored, rfl, rfl⟩

/-- In every state of a session, whatever managers, handles and proxies were used
for, the catalog is the one it started with.  A function that decodes an
identifier from `0` upwards gets the string that the dictionary document has
there, with later duplicates out of account; it fails beyond the last string, and
for a dictionary that is not in the document. -/
theorem managers_decode_stored_strings {text : String} {catalog : DictionaryCatalog}
    (accepted : DictionaryCatalog.parse text = .ok catalog) :
    ∃ document, Json.parse? text = some document ∧ ∀ plan calls,
      let session := (start plan catalog).after calls
      session.catalog = catalog ∧
        ((start plan catalog).RegistersFromCatalog ownOwner calls →
          ∀ manager dictionary id, 0 ≤ id →
            (session.performManaged ⟨manager, .onDictionary dictionary (.string id)⟩).1 =
              match DictionaryCatalog.listFor? document dictionary with
              | none => .failed (.dictionary (.unknownDictionary dictionary))
              | some strings =>
                  match strings.eraseDups[id.toInt.toNat]? with
                  | some value => .answer (.string value)
                  | none => .failed (.dictionary (.unknownString dictionary id))) := by
  obtain ⟨document, parsed, agrees⟩ := DictionaryCatalog.get?_of_parse accepted
  refine ⟨document, parsed, fun plan calls => ?_⟩
  intro session
  have sameCatalog : session.catalog = catalog := catalog_after _ calls
  refine ⟨sameCatalog, fun fromCatalog manager dictionary id nonneg => ?_⟩
  have uses : session.UsesCatalog ownOwner :=
    (usesCatalog_start plan catalog ownOwner).after (isRegistered_start plan catalog) fromCatalog
  have listed := agrees dictionary
  cases known : catalog.get? dictionary with
  | none =>
      rw [known, Option.map_none, eq_comm, Option.map_eq_none_iff] at listed
      rw [listed, performManaged_eq_apply, effect, managerEffect, sameCatalog, known]
      rfl
  | some stored =>
      rw [known, Option.map_some, eq_comm, Option.map_eq_some_iff] at listed
      obtain ⟨strings, given, same⟩ := listed
      obtain ⟨proxy, ofStored, answered⟩ :=
        uses.exists_proxy (sameCatalog ▸ known) manager (.string id)
      rw [answered, given, DictionaryProxy.perform, proxy.getString_of_nonneg nonneg, ofStored,
        id_of_get? known]
      simp only [same]
      cases stored.strings[id.toInt.toNat]? <;> rfl

/-- The last list for a key counts, repeated strings count once, and the values that
are interned in between stay apart. -/
theorem managers_decode_stored_strings_after_interning :
    let text := "\x7b\"7\": [\"old\"], \" 2\": [], \"7\": [\"alpha\", \"beta\", \"alpha\"]\x7d"
    let document : Json := .object [(some "7", .array [.string (some "old")]),
      (some " 2", .array []),
      (some "7", .array [.string (some "alpha"), .string (some "beta"), .string (some "alpha")])]
    let stored : StringDictionary := ⟨7, ⟨["alpha", "beta"], [("beta", 1), ("alpha", 0)]⟩⟩
    let catalog : DictionaryCatalog := ⟨[⟨2, ⟨[], []⟩⟩, stored]⟩
    let calls : List ManagedCall := [⟨⟨[]⟩, .onDictionary 7 (.intern "delta")⟩,
      ⟨⟨[]⟩, .register ownOwner stored⟩, ⟨⟨[]⟩, .onProxy 0 (.internAll ["beta", "epsilon"])⟩]
    let session := (start ⟨[]⟩ catalog).after calls
    DictionaryCatalog.parse text = .ok catalog ∧ Json.parse? text = some document ∧
      (start ⟨[]⟩ catalog).RegistersFromCatalog ownOwner calls ∧
      (session.performManaged ⟨⟨[]⟩, .onDictionary 7 (.string 1)⟩).1 = .answer (.string "beta") ∧
      (session.performManaged ⟨⟨[]⟩, .onDictionary 7 (.string 2)⟩).1 =
        .failed (.dictionary (.unknownString 7 2)) := by
  intro text document stored catalog calls session
  have accepted : DictionaryCatalog.parse text = .ok catalog := by decide +kernel
  have written : Json.parse? text = some document := by cbv
  have fromCatalog : (start ⟨[]⟩ catalog).RegistersFromCatalog ownOwner calls := by
    refine ⟨by simp, ?_, by simp, trivial⟩
    rintro brought ⟨⟩ -
    decide
  obtain ⟨found, parsed, decodes⟩ := managers_decode_stored_strings accepted
  rw [written, Option.some.injEq] at parsed
  subst parsed
  obtain ⟨-, answers⟩ := decodes ⟨[]⟩ calls
  have listed : DictionaryCatalog.listFor? document 7 = some ["alpha", "beta", "alpha"] := by
    decide +kernel
  refine ⟨accepted, written, fromCatalog, ?_, ?_⟩
  · rw [answers fromCatalog ⟨[]⟩ 7 1 (by decide), listed]
    decide
  · rw [answers fromCatalog ⟨[]⟩ 7 2 (by decide), listed]
    decide

end QuerySession

end RowFunctions

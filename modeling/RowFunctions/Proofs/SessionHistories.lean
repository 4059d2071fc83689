import RowFunctions.Proofs.ManagedCalls

/-!
# Histories of sessions

The values that calls intern into one proxy, whichever route they take and
through whichever manager, form its history.  This file follows one proxy through
all calls of a run: the identifiers that it hands out are those of the first uses
in its history.
-/

namespace RowFunctions

namespace QuerySession

/-- The values that calls intern into the proxy with a number, in order and
whichever route they take. -/
def internedInto (session : QuerySession) (name : ProxyName) : List ManagedCall → List String
  | [] => []
  | managed :: calls =>
      session.internedBy name managed ++
        internedInto (session.performManaged managed).2 name calls

theorem internedInto_append (session : QuerySession) (name : ProxyName)
    (earlier later : List ManagedCall) :
    session.internedInto name (earlier ++ later) =
      session.internedInto name earlier ++ (session.after earlier).internedInto name later := by
  induction earlier generalizing session with
  | nil => rfl
  | cons managed earlier ih =>
      rw [List.cons_append, internedInto, internedInto, ih, List.append_assoc]
      rfl

/-- The proxy with a number records a history.  Before the proxy exists there is
no history. -/
structure Tracks (session : QuerySession) (name : ProxyName) (history : List String) :
    Prop where
  records : ∀ proxy, session.proxy? name = some proxy → proxy.Records history
  unused : session.proxy? name = none → history = []

theorem tracks_start (plan : Plan) (catalog : DictionaryCatalog) (name : ProxyName) :
    (start plan catalog).Tracks name [] where
  records := by
    intro proxy present
    simp [start, proxy?] at present
  unused := fun _ => rfl

theorem Opens.tracks {later earlier : QuerySession} (opens : later.Opens earlier)
    {name : ProxyName} {history : List String} (tracks : earlier.Tracks name history) :
    later.Tracks name history := by
  cases before : earlier.proxy? name with
  | none =>
      rw [tracks.unused before]
      refine ⟨?_, fun _ => rfl⟩
      intro proxy present
      obtain ⟨stored, rfl⟩ := opens.proxy?_of_none before present
      exact DictionaryProxy.records_ofDictionary stored
  | some earlierProxy =>
      have kept := opens.proxy?_of_some before
      refine ⟨?_, fun absent => by simp [kept] at absent⟩
      intro proxy present
      rw [kept, Option.some.injEq] at present
      exact present ▸ tracks.records earlierProxy before

theorem Tracks.replace {session : QuerySession} {name target : ProxyName}
    {history : List String} (tracks : session.Tracks name history) {proxy : DictionaryProxy}
    (present : session.proxy? target = some proxy) {call : ProxyCall}
    (room : target = name → proxy.dictionary.HasRoom (history ++ call.interned)) :
    (session.replace target (proxy.perform call).2).Tracks name
      (history ++ if target = name then call.interned else []) := by
  by_cases same : target = name
  · subst same
    rw [if_pos rfl]
    have recorded := (tracks.records proxy present).perform (room rfl)
    refine ⟨?_, ?_⟩
    · intro next nextPresent
      rw [proxy?_replace present, if_pos rfl, Option.some.injEq] at nextPresent
      exact nextPresent ▸ recorded
    · intro absent
      simp [proxy?_replace present] at absent
  · rw [if_neg same, List.append_nil]
    have kept : (session.replace target (proxy.perform call).2).proxy? name =
        session.proxy? name := by
      rw [proxy?_replace present, if_neg (Ne.symm same)]
    exact ⟨fun next nextPresent => tracks.records next (kept ▸ nextPresent),
      fun absent => tracks.unused (kept ▸ absent)⟩

/-- The proxy with a number, if it exists, has identifiers left for a history. -/
def LeavesRoom (session : QuerySession) (name : ProxyName) (history : List String) : Prop :=
  ∀ proxy, session.proxy? name = some proxy → proxy.dictionary.HasRoom history

theorem LeavesRoom.of_continues {later earlier : QuerySession} {name : ProxyName}
    {history more : List String} (room : later.LeavesRoom name (history ++ more))
    (continues : later.Continues earlier) : earlier.LeavesRoom name history := by
  intro proxy present
  obtain ⟨next, nextPresent, same⟩ := continues.proxies name proxy present
  have roomNext := room next nextPresent
  rw [same] at roomNext
  exact roomNext.of_append

theorem Tracks.performManaged {session : QuerySession} {name : ProxyName}
    {history : List String} (tracks : session.Tracks name history)
    (wellRegistered : session.IsRegistered) {managed : ManagedCall}
    (room : (session.performManaged managed).2.LeavesRoom name
      (history ++ session.internedBy name managed)) :
    (session.performManaged managed).2.Tracks name
      (history ++ session.internedBy name managed) := by
  rcases performManaged_cases wellRegistered managed with
    ⟨opens, nothing⟩ | ⟨opened, target, proxy, call, opens, present, performed, interned⟩
  · rw [nothing, List.append_nil]
    exact opens.tracks tracks
  · rw [performed, interned] at room ⊢
    apply (opens.tracks tracks).replace present
    intro same
    subst same
    have roomNext := room (proxy.perform call).2 (by rw [proxy?_replace present, if_pos rfl])
    rwa [if_pos rfl, proxy.dictionary_perform call] at roomNext

/-- After any calls the proxy records what they interned into it. -/
theorem Tracks.after {session : QuerySession} {name : ProxyName} {history : List String}
    (tracks : session.Tracks name history) (wellRegistered : session.IsRegistered)
    {calls : List ManagedCall}
    (room : (session.after calls).LeavesRoom name (history ++ session.internedInto name calls)) :
    (session.after calls).Tracks name (history ++ session.internedInto name calls) := by
  induction calls generalizing session history with
  | nil =>
      rw [internedInto, List.append_nil]
      exact tracks
  | cons managed calls ih =>
      have next := wellRegistered.performManaged managed
      rw [internedInto, ← List.append_assoc] at room ⊢
      exact ih (tracks.performManaged wellRegistered (room.of_continues (next.1.after calls).2))
        next.1 room

/-- A proxy performs the calls that take a route through the manager of a plan. -/
def Serves (session : QuerySession) (plan : Plan) (route : ProxyRoute) (name : ProxyName)
    (proxy : DictionaryProxy) : Prop :=
  ∀ call, (session.performManaged ⟨plan, route.call call⟩).1 =
      answerOf (proxy.perform call).1 ∧
    (session.performManaged ⟨plan, route.call call⟩).2.proxy? name =
      some (proxy.perform call).2 ∧
    (session.performManaged ⟨plan, route.call call⟩).2.reached? route = some name

theorem exists_serves {session : QuerySession} (wellRegistered : session.IsRegistered)
    {route : ProxyRoute} {name : ProxyName} (reached : session.reached? route = some name)
    (plan : Plan) :
    ∃ (opened : QuerySession) (proxy : DictionaryProxy), opened.Opens session ∧
      opened.proxy? name = some proxy ∧ session.Serves plan route name proxy := by
  have indexed : IsRegistered { session with index := .ofPlan plan } := wellRegistered
  obtain ⟨opened, proxy, opens, present, performed⟩ :=
    perform_route_of_some indexed ((session.reached?_index _ route).trans reached)
  refine ⟨opened, proxy, opens.of_index, present, fun call => ⟨?_, ?_, (performed call).2⟩⟩
  · rw [QuerySession.performManaged, (performed call).1]
  · rw [QuerySession.performManaged, (performed call).1, proxy?_replace present, if_pos rfl]

/-- A call on a served route leaves the same route served by the next proxy. -/
theorem Serves.next {session : QuerySession} {plan : Plan} {route : ProxyRoute}
    {name : ProxyName} {proxy : DictionaryProxy} (serves : session.Serves plan route name proxy)
    (wellRegistered : session.IsRegistered) (call : ProxyCall) :
    (session.performManaged ⟨plan, route.call call⟩).2.Serves plan route name
      (proxy.perform call).2 := by
  obtain ⟨-, present, reached⟩ := serves call
  obtain ⟨opened, next, opens, nextPresent, nextServes⟩ :=
    exists_serves (wellRegistered.performManaged ⟨plan, route.call call⟩).1 reached plan
  rw [opens.proxy?_of_some present, Option.some.injEq] at nextPresent
  exact nextPresent ▸ nextServes

theorem Serves.intern {session : QuerySession} {plan : Plan} {route : ProxyRoute}
    {name : ProxyName} {proxy : DictionaryProxy} (serves : session.Serves plan route name proxy)
    {history : List String} (records : proxy.Records history) {value : String}
    (room : proxy.dictionary.HasRoom (history ++ [value])) :
    (session.performManaged ⟨plan, route.call (.intern value)⟩).1 =
      .answer (.id (proxy.dictionary.firstUseId (history ++ [value]) value)) := by
  rw [(serves (.intern value)).1, DictionaryProxy.perform, (records.intern room).1]
  rfl

theorem Serves.internAll {session : QuerySession} {plan : Plan} {route : ProxyRoute}
    {name : ProxyName} {proxy : DictionaryProxy} (serves : session.Serves plan route name proxy)
    {history : List String} (records : proxy.Records history) {values : List String}
    (room : proxy.dictionary.HasRoom (history ++ values)) :
    (session.performManaged ⟨plan, route.call (.internAll values)⟩).1 =
      .answer (.ids (values.map (proxy.dictionary.firstUseId (history ++ values)))) := by
  rw [(serves (.internAll values)).1, DictionaryProxy.perform, (records.internAll room).1]
  rfl

theorem Serves.run_interns {session : QuerySession} {plan : Plan} {route : ProxyRoute}
    {name : ProxyName} {proxy : DictionaryProxy} (serves : session.Serves plan route name proxy)
    (wellRegistered : session.IsRegistered) {history : List String}
    (records : proxy.Records history) {values : List String}
    (room : proxy.dictionary.HasRoom (history ++ values)) :
    session.runManaged (values.map fun value => ⟨plan, route.call (.intern value)⟩) =
      values.map fun value =>
        .answer (.id (proxy.dictionary.firstUseId (history ++ values) value)) := by
  induction values generalizing session proxy history with
  | nil => rfl
  | cons value values ih =>
      have reordered : history ++ value :: values = (history ++ [value]) ++ values := by simp
      rw [reordered] at room ⊢
      have used : value ∈ history ++ [value] := by simp
      have recorded := (records.intern room.of_append).2
      have next := wellRegistered.performManaged ⟨plan, route.call (.intern value)⟩
      have same := proxy.dictionary_perform (.intern value)
      have rest := ih (serves.next wellRegistered (.intern value)) next.1 recorded (same ▸ room)
      rw [same] at rest
      rw [List.map_cons, List.map_cons, runManaged, serves.intern records room.of_append,
        StringDictionary.firstUseId_append_of_mem _ used, rest]

/-- Through any route to a proxy, a call interns values as some identifiers:
whether it interns one value or several, and whether the several are interned
at once or one by one. -/
def InternsAs (session : QuerySession) (managed : ManagedCall) (name : ProxyName)
    (identifier : String → StringId) : Prop :=
  ∀ route, session.reached? route = some name →
    (∀ value, managed.call = route.call (.intern value) →
      (session.performManaged managed).1 = .answer (.id (identifier value))) ∧
    ∀ values, managed.call = route.call (.internAll values) →
      (session.performManaged managed).1 = .answer (.ids (values.map identifier)) ∧
      session.runManaged (values.map fun value => ⟨managed.plan, route.call (.intern value)⟩) =
        values.map fun value => .answer (.id (identifier value))

/-- A call on a proxy that records a history interns by the law of first use, in
every history that goes on from there. -/
theorem Tracks.internsAs {session : QuerySession} {name : ProxyName} {history : List String}
    (tracks : session.Tracks name history) (wellRegistered : session.IsRegistered)
    (managed : ManagedCall) {dictionary : StringDictionary} {more : List String}
    (same : ∀ next, (session.performManaged managed).2.proxy? name = some next →
      next.dictionary = dictionary)
    (room : dictionary.HasRoom (history ++ session.internedBy name managed ++ more)) :
    session.InternsAs managed name
      (dictionary.firstUseId (history ++ session.internedBy name managed ++ more)) := by
  -- One proxy stands at the end of the route, whatever is asked of it; it records
  -- the history and has the given dictionary.
  intro route reached
  obtain ⟨plan, sessionCall⟩ := managed
  obtain ⟨opened, proxy, opens, present, serves⟩ := exists_serves wellRegistered reached plan
  have records := (opens.tracks tracks).records proxy present
  have sameDictionary (call : ProxyCall) (routed : sessionCall = route.call call) :
      proxy.dictionary = dictionary := by
    have nextPresent := (serves call).2.1
    rw [← routed] at nextPresent
    exact (proxy.dictionary_perform call).symm.trans (same _ nextPresent)
  have interned (call : ProxyCall) (routed : sessionCall = route.call call) :
      session.internedBy name ⟨plan, sessionCall⟩ = call.interned := by
    simp [internedBy, routed, reached]
  refine ⟨?_, ?_⟩
  · intro value routed
    have used : value ∈ history ++ [value] := by simp
    rw [interned _ routed, ProxyCall.interned] at room ⊢
    rw [← sameDictionary _ routed] at room ⊢
    rw [StringDictionary.firstUseId_append_of_mem _ used]
    simp only at routed
    rw [routed]
    exact serves.intern records room.of_append
  · intro values routed
    rw [interned _ routed, ProxyCall.interned] at room ⊢
    rw [← sameDictionary _ routed] at room ⊢
    have settled : ∀ value ∈ values,
        proxy.dictionary.firstUseId (history ++ values ++ more) value =
          proxy.dictionary.firstUseId (history ++ values) value := by
      intro value member
      exact StringDictionary.firstUseId_append_of_mem _ (List.mem_append_right _ member) more
    simp only at routed
    subst routed
    refine ⟨?_, ?_⟩
    · rw [List.map_congr_left settled]
      exact serves.internAll records room.of_append
    · rw [serves.run_interns wellRegistered records room.of_append]
      apply List.map_congr_left
      intro value member
      rw [settled value member]

theorem tracks_after_start {plan : Plan} {catalog : DictionaryCatalog}
    {calls : List ManagedCall} {name : ProxyName}
    (room : ((start plan catalog).after calls).LeavesRoom name
      ((start plan catalog).internedInto name calls)) :
    ((start plan catalog).after calls).Tracks name
      ((start plan catalog).internedInto name calls) := by
  rw [← List.nil_append ((start plan catalog).internedInto name calls)] at room ⊢
  exact (tracks_start plan catalog name).after (isRegistered_start plan catalog) room

/-- Each call of a run interns by the law of first use in the history of the whole
run. -/
theorem internsAs_after_start {plan : Plan} {catalog : DictionaryCatalog}
    (earlier : List ManagedCall) (managed : ManagedCall) (later : List ManagedCall)
    {name : ProxyName} {proxy : DictionaryProxy}
    (present : ((start plan catalog).after (earlier ++ managed :: later)).proxy? name =
      some proxy)
    (room : proxy.dictionary.HasRoom
      ((start plan catalog).internedInto name (earlier ++ managed :: later))) :
    ((start plan catalog).after earlier).InternsAs managed name
      (proxy.dictionary.firstUseId
        ((start plan catalog).internedInto name (earlier ++ managed :: later))) := by
  have earlierRegistered := ((isRegistered_start plan catalog).after earlier).1
  have next := earlierRegistered.performManaged managed
  have last := (next.1.after later).2
  rw [after_append] at present
  have split := internedInto_append (start plan catalog) name earlier (managed :: later)
  rw [internedInto, ← List.append_assoc] at split
  rw [split] at room ⊢
  -- The dictionary of the final proxy is the one behind the name after every call.
  have same : ∀ found, (((start plan catalog).after earlier).performManaged managed).2.proxy?
      name = some found → found.dictionary = proxy.dictionary := by
    intro found foundPresent
    obtain ⟨final, finalPresent, sameDictionary⟩ := last.proxies name found foundPresent
    have sameProxy := Option.some.inj (present.symm.trans finalPresent)
    rw [sameProxy, sameDictionary]
  have earlierRoom : ((start plan catalog).after earlier).LeavesRoom name
      ((start plan catalog).internedInto name earlier) := by
    intro found foundPresent
    obtain ⟨middle, middlePresent, sameDictionary⟩ := next.2.proxies name found foundPresent
    rw [← sameDictionary, same middle middlePresent]
    exact room.of_append.of_append
  exact (tracks_after_start earlierRoom).internsAs earlierRegistered managed same room

/-- Transient identifiers follow the order of first use across all routes to a
registered proxy.  The proxy counts the new values of its history.  As long as
identifiers last, every call interns as the law of first use says for the whole
history.  Every request and every manager leads to this one proxy. -/
theorem transient_identifiers_follow_first_use (plan : Plan) (catalog : DictionaryCatalog)
    (calls : List ManagedCall) {owner : OwnerName} {dictionary : DictionaryId}
    {name : ProxyName}
    (registered : ((start plan catalog).after calls).registered? owner dictionary = some name) :
    ∃ proxy, ((start plan catalog).after calls).proxy? name = some proxy ∧
      proxy.dictionary.id = dictionary ∧
      (let history := (start plan catalog).internedInto name calls
      proxy.dictionary.HasRoom history →
        proxy.transientCount = (proxy.dictionary.newValues history).card ∧
        ∀ earlier managed later, calls = earlier ++ managed :: later →
          ((start plan catalog).after earlier).InternsAs managed name
            (proxy.dictionary.firstUseId history)) ∧
      ∀ earlier managed later, calls = earlier ++ managed :: later →
        let session := (start plan catalog).after earlier
        (managed.call.AsksFor owner dictionary →
          (session.performManaged managed).1 = .proxy name ∨
            (session.performManaged managed).1 =
              .failed (.dictionary (.unknownDictionary dictionary))) ∧
        ∀ call, owner = ownOwner → managed.call = .onDictionary dictionary call →
          session.reached? (.manager dictionary) = some name ∨
            session.reached? (.manager dictionary) = none := by
  have wellRegistered := isRegistered_start plan catalog
  obtain ⟨proxy, present, same⟩ :=
    (wellRegistered.after calls).1 owner dictionary name registered
  refine ⟨proxy, present, same, ?_, ?_⟩
  · intro history room
    have leavesRoom : ((start plan catalog).after calls).LeavesRoom name history := by
      intro found foundPresent
      rw [present, Option.some.injEq] at foundPresent
      exact foundPresent ▸ room
    have tracks := tracks_after_start leavesRoom
    refine ⟨(tracks.records proxy present).transientCount_eq, ?_⟩
    rintro earlier managed later rfl
    exact internsAs_after_start earlier managed later present room
  · rintro earlier managed later rfl session
    have settles {answered : ProxyName}
        (soon : (session.performManaged managed).2.registered? owner dictionary =
          some answered) : answered = name :=
      (wellRegistered.after earlier).1.registered?_settles soon
        (after_append _ _ _ ▸ registered)
    constructor
    · intro asks
      rcases session.performManaged_asksFor asks with failed | ⟨answered, answer, soon⟩
      · exact .inr failed
      · exact .inl (settles soon ▸ answer)
    · rintro call rfl routed
      cases reached : session.reached? (.manager dictionary) with
      | none => exact .inr rfl
      | some answered =>
          have soon := registered?_performManaged_of_reached? reached routed
          exact .inl (congrArg some (settles soon))

/-- Two managers and a handle share one proxy.  The stored string and the
repeated ones take no identifier of their own. -/
theorem transient_identifiers_follow_first_use_of_shared_proxy :
    let catalog : DictionaryCatalog := ⟨[⟨7, ⟨["alpha", "beta"], [("beta", 1), ("alpha", 0)]⟩⟩]⟩
    let first : Plan := ⟨[]⟩
    let second : Plan := ⟨[.call "trim" .text []]⟩
    let earlier : List ManagedCall := [⟨first, .onDictionary 7 (.intern "gamma")⟩,
      ⟨second, .handle 7⟩]
    let shared : ManagedCall :=
      ⟨second, .onProxy 0 (.internAll ["delta", "beta", "gamma", "delta"])⟩
    let later : List ManagedCall := [⟨first, .onDictionary 7 (.intern "omega")⟩]
    let session := (start first catalog).after earlier
    ((start first catalog).after (earlier ++ shared :: later)).registered? ownOwner 7 =
        some 0 ∧
      (session.performManaged shared).1 = .answer (.ids [-3, 1, -2, -3]) ∧
      session.runManaged (["delta", "beta", "gamma", "delta"].map fun value =>
        ⟨second, .onProxy 0 (.intern value)⟩) =
          [.answer (.id (-3)), .answer (.id 1), .answer (.id (-2)), .answer (.id (-3))] := by
  intro catalog first second earlier shared later session
  have registered : ((start first catalog).after (earlier ++ shared :: later)).registered?
      ownOwner 7 = some 0 := by decide
  obtain ⟨proxy, present, -, lawful, -⟩ := transient_identifiers_follow_first_use first catalog
    (earlier ++ shared :: later) registered
  have dictionary : proxy.dictionary = ⟨7, ⟨["alpha", "beta"], [("beta", 1), ("alpha", 0)]⟩⟩ := by
    have same : some _ = some proxy := present
    rw [← Option.some.inj same]
    rfl
  rw [dictionary] at lawful
  obtain ⟨-, interns⟩ := lawful (by decide)
  obtain ⟨-, all⟩ := interns earlier shared later rfl (.held 0) (by decide)
  obtain ⟨atOnce, oneByOne⟩ := all ["delta", "beta", "gamma", "delta"] rfl
  refine ⟨registered, ?_, ?_⟩
  · rw [atOnce]
    decide
  · refine oneByOne.trans ?_
    decide

end QuerySession

end RowFunctions

import RowFunctions.Proofs.AssociationLists
import RowFunctions.Proofs.PlanRoundTrip

/-!
# The fields of a record

A record is read by the look-ups of its fields, which come from the members of an object
or from the elements of an array.  This file says what the fields of an object are, and
that an expression is a record too: splitting off its tag and then reading the fields is
the same as reading the fields with the tag among them.  So nothing has to be said about
tags apart from other fields.
-/

namespace RowFunctions

namespace PlanDocument

/-- The members of an object that are fields of a record. -/
def knownMembers (names : List String) (members : List (Option String × Json)) :
    List (String × Json) :=
  members.filterMap fun entry =>
    entry.1.bind fun key => if names.contains key then some (key, entry.2) else none

theorem namedMembers?_eq_some_iff (members : List (Option String × Json))
    (named : List (String × Json)) :
    namedMembers? members = some named ↔ (∀ entry ∈ members, entry.1.isSome = true) ∧
      named = members.filterMap fun entry => entry.1.map fun key => (key, entry.2) := by
  induction members generalizing named with
  | nil =>
      constructor
      · intro read
        exact ⟨by simp, (Option.some.inj read).symm⟩
      · rintro ⟨-, rfl⟩
        rfl
  | cons entry members ih =>
      obtain ⟨key, value⟩ := entry
      unfold namedMembers? at ih ⊢
      rw [List.mapM_cons]
      cases key with
      | none => simp
      | some key =>
          simp only [Option.map_some, Option.bind_eq_bind, Option.bind_some,
            Option.bind_eq_some_iff, ih, Option.pure_def, Option.some.injEq,
            List.forall_mem_cons, Option.isSome_some, true_and, List.filterMap_cons]
          constructor
          · rintro ⟨others, ⟨keyed, rfl⟩, rfl⟩
            exact ⟨keyed, rfl⟩
          · rintro ⟨keyed, rfl⟩
            exact ⟨_, ⟨keyed, rfl⟩, rfl⟩

theorem fields?_object_eq_some_iff (names : List String) (members : List (Option String × Json))
    (fields : List (String × Json)) :
    fields? names (.object members) = some fields ↔
      (∀ entry ∈ members, entry.1.isSome = true) ∧
        ((knownMembers names members).map Prod.fst).Nodup ∧
        fields = knownMembers names members := by
  have known : (members.filterMap fun entry => entry.1.map fun key => (key, entry.2)).filter
      (fun entry => names.contains entry.1) = knownMembers names members := by
    rw [List.filter_filterMap, knownMembers]
    congr 1
    funext entry
    cases entry.1 with
    | none => rfl
    | some key => simp [Option.filter]
  rw [fields?]
  cases named : namedMembers? members with
  | none =>
      constructor
      · intro read
        contradiction
      · rintro ⟨keyed, -, -⟩
        rw [(namedMembers?_eq_some_iff members _).mpr ⟨keyed, rfl⟩] at named
        contradiction
  | some entries =>
      obtain ⟨keyed, rfl⟩ := (namedMembers?_eq_some_iff members entries).mp named
      simp only [known, Option.ite_none_right_eq_some, Option.some.injEq]
      constructor
      · rintro ⟨distinct, rfl⟩
        exact ⟨keyed, distinct, rfl⟩
      · rintro ⟨-, distinct, rfl⟩
        exact ⟨distinct, rfl⟩

theorem knownMembers_cons (names : List String) (name : String) (value : Json)
    (members : List (Option String × Json)) :
    knownMembers names ((some name, value) :: members) =
      if name ∈ names then (name, value) :: knownMembers names members
      else knownMembers names members := by
  by_cases field : name ∈ names <;> simp [knownMembers, field]

theorem knownMembers_append (names : List String) (members others : List (Option String × Json)) :
    knownMembers names (members ++ others) =
      knownMembers names members ++ knownMembers names others :=
  List.filterMap_append ..

theorem mem_knownMembers_iff {names : List String} {members : List (Option String × Json)}
    {name : String} {value : Json} :
    (name, value) ∈ knownMembers names members ↔ name ∈ names ∧ (some name, value) ∈ members := by
  simp only [knownMembers, List.mem_filterMap, Option.bind_eq_some_iff, List.contains_eq_mem,
    decide_eq_true_eq, Option.ite_none_right_eq_some, Option.some.injEq, Prod.mk.injEq]
  constructor
  · rintro ⟨⟨_, _⟩, member, key, rfl, field, rfl, rfl⟩
    exact ⟨field, member⟩
  · rintro ⟨field, member⟩
    exact ⟨_, member, name, rfl, field, rfl, rfl⟩

theorem map_fst_zip_isPrefix {Name Value : Type} (names : List Name) (values : List Value) :
    (names.zip values).map Prod.fst <+: names := by
  induction names generalizing values with
  | nil => exact List.prefix_rfl
  | cons name names ih =>
      cases values with
      | nil => exact List.nil_prefix
      | cons value values => exact List.cons_prefix_cons.mpr ⟨rfl, ih values⟩

/-- The names of the fields that are found are all different. -/
theorem nodup_of_fields? {names : List String} {value : Json} {fields : List (String × Json)}
    (different : names.Nodup) (read : fields? names value = some fields) :
    (fields.map Prod.fst).Nodup := by
  cases value with
  | object members =>
      obtain ⟨-, distinct, rfl⟩ := (fields?_object_eq_some_iff names members fields).mp read
      exact distinct
  | array elements =>
      simp only [fields?, Option.ite_none_right_eq_some, Option.some.injEq] at read
      rw [← read.2]
      exact (map_fst_zip_isPrefix names elements).sublist.nodup different
  | _ => simp [fields?] at read

/-! ### Expressions as records -/

theorem untag?_object_eq_some_iff (members : List (Option String × Json)) (tag record : Json) :
    untag? (.object members) = some (tag, record) ↔
      ∃ before after, members = before ++ (some "expr", tag) :: after ∧
        (∀ entry ∈ before ++ after, entry.1 ≠ some "expr") ∧
        record = .object (before ++ after) := by
  have untagged (entries : List (Option String × Json))
      (none : ∀ entry ∈ entries, entry.1 ≠ some "expr") :
      entries.filter (fun entry => entry.1 == some "expr") = [] ∧
        entries.filter (fun entry => entry.1 != some "expr") = entries := by
    rw [List.filter_eq_nil_iff, List.filter_eq_self]
    exact ⟨fun entry member => by simpa using none entry member,
      fun entry member => by simpa using none entry member⟩
  constructor
  · intro split
    rw [untag?] at split
    cases tags : members.filter (fun entry => entry.1 == some "expr") with
    | nil => simp [tags] at split
    | cons found others =>
        cases others with
        | cons second others => simp [tags] at split
        | nil =>
            obtain ⟨before, after, rfl, front, isTag, back⟩ := List.filter_eq_cons_iff.mp tags
            simp only [tags, Option.some.injEq, Prod.mk.injEq] at split
            obtain ⟨rfl, rfl⟩ := split
            obtain ⟨key, tag⟩ := found
            obtain rfl := beq_iff_eq.mp isTag
            have none : ∀ entry ∈ before ++ after, entry.1 ≠ some "expr" := by
              rw [List.filter_eq_nil_iff] at back
              rw [List.forall_mem_append]
              exact ⟨fun entry member => by simpa using front entry member,
                fun entry member => by simpa using back entry member⟩
            refine ⟨before, after, rfl, none, ?_⟩
            rw [List.filter_append, List.filter_cons_of_neg (by simp), ← List.filter_append,
              (untagged _ none).2]
  · rintro ⟨before, after, rfl, none, rfl⟩
    obtain ⟨noTags, others⟩ := untagged _ none
    rw [List.filter_append] at noTags others
    obtain ⟨front, back⟩ := List.append_eq_nil_iff.mp noTags
    rw [untag?, List.filter_append, List.filter_cons_of_pos (by simp), front, back,
      List.filter_append, List.filter_cons_of_neg (by simp), others]
    rfl

theorem knownMembers_cons_names {name : String} {names : List String}
    {members : List (Option String × Json)} (absent : ∀ entry ∈ members, entry.1 ≠ some name) :
    knownMembers (name :: names) members = knownMembers names members := by
  apply List.filterMap_congr
  intro entry member
  cases keyed : entry.1 with
  | none => rfl
  | some key =>
      have different : key ≠ name := fun same => absent entry member (by rw [keyed, same])
      simp [different]

/-- The fields of an object around its tag. -/
theorem knownMembers_tagged {names : List String} {before after : List (Option String × Json)}
    (tag : Json) (none : ∀ entry ∈ before ++ after, entry.1 ≠ some "expr") :
    knownMembers ("expr" :: names) (before ++ (some "expr", tag) :: after) =
        knownMembers names before ++ ("expr", tag) :: knownMembers names after ∧
      knownMembers names (before ++ after) =
        knownMembers names before ++ knownMembers names after := by
  rw [List.forall_mem_append] at none
  rw [knownMembers_append, knownMembers_append, knownMembers_cons, if_pos (by simp),
    knownMembers_cons_names none.1, knownMembers_cons_names none.2]
  exact ⟨rfl, rfl⟩

/-- An object with a tag among its fields has it once. -/
theorem exists_of_knownMembers_eq {names : List String} {members : List (Option String × Json)}
    {earlier later : List (String × Json)} {tag : Json}
    (distinct : ((knownMembers ("expr" :: names) members).map Prod.fst).Nodup)
    (known : knownMembers ("expr" :: names) members = earlier ++ ("expr", tag) :: later) :
    ∃ before after, members = before ++ (some "expr", tag) :: after ∧
      (∀ entry ∈ before ++ after, entry.1 ≠ some "expr") ∧
      knownMembers names before = earlier ∧ knownMembers names after = later := by
  obtain ⟨front, rest, rfl, fromFront, fromRest⟩ := List.filterMap_eq_append_iff.mp known
  obtain ⟨ignored, ⟨key, value⟩, after, rfl, unknown, isTag, fromAfter⟩ :=
    List.filterMap_eq_cons_iff.mp fromRest
  simp only [Option.bind_eq_some_iff, Option.ite_none_right_eq_some, Option.some.injEq,
    Prod.mk.injEq] at isTag
  obtain ⟨_, rfl, -, rfl, rfl⟩ := isTag
  have before : knownMembers ("expr" :: names) (front ++ ignored) = earlier := by
    have nothing : knownMembers ("expr" :: names) ignored = [] :=
      List.filterMap_eq_nil_iff.mpr unknown
    rw [knownMembers_append, nothing, List.append_nil]
    exact fromFront
  have none : ∀ entry ∈ front ++ ignored ++ after, entry.1 ≠ some "expr" := by
    rintro ⟨_, value⟩ member rfl
    have others : ("expr", value) ∈ earlier ++ later := by
      rw [← before, ← fromAfter]
      change _ ∈ _ ++ knownMembers ("expr" :: names) after
      rw [← knownMembers_append, mem_knownMembers_iff]
      exact ⟨by simp, member⟩
    rw [known, List.map_append, List.map_cons, List.nodup_middle, ← List.map_append,
      List.nodup_cons] at distinct
    exact distinct.1 (List.mem_map.mpr ⟨_, others, rfl⟩)
  rw [List.forall_mem_append] at none
  refine ⟨front ++ ignored, after, by simp, List.forall_mem_append.mpr none, ?_, ?_⟩
  · rw [← before, knownMembers_cons_names none.1]
  · rw [← fromAfter]
    exact (knownMembers_cons_names none.2).symm

/-- Reading a tag and then the fields of an expression is reading the fields of a record
with the tag as one more field. -/
theorem untag?_fields?_iff {names : List String} (reserved : "expr" ∉ names) (value tag : Json)
    (fields : List (String × Json)) :
    (∃ record, untag? value = some (tag, record) ∧ fields? names record = some fields) ↔
      ∃ earlier later, fields = earlier ++ later ∧
        fields? ("expr" :: names) value = some (earlier ++ ("expr", tag) :: later) := by
  cases value with
  | object members =>
      constructor
      · rintro ⟨record, split, read⟩
        obtain ⟨before, after, rfl, none, rfl⟩ := (untag?_object_eq_some_iff _ _ _).mp split
        obtain ⟨keyed, distinct, rfl⟩ := (fields?_object_eq_some_iff _ _ _).mp read
        obtain ⟨withTag, without⟩ := @knownMembers_tagged names before after tag none
        refine ⟨_, _, without, ?_⟩
        rw [fields?_object_eq_some_iff, withTag]
        refine ⟨?_, ?_, rfl⟩
        · rw [List.forall_mem_append] at keyed
          rw [List.forall_mem_append, List.forall_mem_cons]
          exact ⟨keyed.1, rfl, keyed.2⟩
        · rw [List.map_append, List.map_cons, List.nodup_middle, ← List.map_append, ← without,
            List.nodup_cons]
          refine ⟨?_, distinct⟩
          intro member
          obtain ⟨⟨_, stored⟩, listed, rfl⟩ := List.mem_map.mp member
          exact reserved (mem_knownMembers_iff.mp listed).1
      · rintro ⟨earlier, later, rfl, read⟩
        obtain ⟨keyed, distinct, known⟩ := (fields?_object_eq_some_iff _ _ _).mp read
        obtain ⟨before, after, rfl, none, rfl, rfl⟩ :=
          exists_of_knownMembers_eq distinct known.symm
        obtain ⟨-, without⟩ := @knownMembers_tagged names before after tag none
        refine ⟨.object (before ++ after), (untag?_object_eq_some_iff _ _ _).mpr
          ⟨before, after, rfl, none, rfl⟩, ?_⟩
        rw [fields?_object_eq_some_iff, without]
        refine ⟨?_, ?_, rfl⟩
        · rw [List.forall_mem_append, List.forall_mem_cons] at keyed
          exact List.forall_mem_append.mpr ⟨keyed.1, keyed.2.2⟩
        · rw [← known, List.map_append, List.map_cons, List.nodup_middle, ← List.map_append,
            List.nodup_cons] at distinct
          exact distinct.2
  | array elements =>
      cases elements with
      | nil => simp [untag?, fields?]
      | cons first elements =>
          simp only [untag?, fields?, List.length_cons, Nat.add_le_add_iff_right,
            List.zip_cons_cons, Option.some.injEq, Prod.mk.injEq, Option.ite_none_right_eq_some]
          constructor
          · rintro ⟨record, ⟨rfl, rfl⟩, read⟩
            simp only [Option.ite_none_right_eq_some, Option.some.injEq] at read
            exact ⟨[], fields, rfl, read.1, by rw [read.2, List.nil_append]⟩
          · rintro ⟨earlier, later, rfl, few, read⟩
            cases earlier with
            | nil =>
                simp only [List.nil_append, List.cons.injEq, Prod.mk.injEq, true_and] at read
                exact ⟨_, ⟨read.1, rfl⟩, by simp [few, read.2]⟩
            | cons entry earlier =>
                -- The tag would be among the fields that follow.
                rw [List.cons_append, List.cons.injEq] at read
                have member : "expr" ∈ (names.zip elements).map Prod.fst := by
                  rw [read.2]
                  simp
                exact absurd ((map_fst_zip_isPrefix names elements).subset member) reserved
  | _ => simp [untag?, fields?]

/-- The fields of the three forms of an expression. -/
def Tag.fields : Tag → List String
  | column => columnFields
  | constant => constantFields
  | call => callFields

theorem Tag.expr_notMem_fields (tag : Tag) : "expr" ∉ tag.fields := by
  cases tag <;> decide

theorem Tag.nodup_fields (tag : Tag) : ("expr" :: tag.fields).Nodup := by
  cases tag <;> decide

/-- The expression of a form that fields make. -/
def assemble? (fuel : Nat) (fields : List (String × Json)) : Tag → Option Expression
  | .column => do
      let table ← optional? fields "table" none (nullable? text?)
      let name ← required? fields "column" text?
      let type ← required? fields "type_info" (type? .expression)
      return .column table name type
  | .constant => do
      let value ← required? fields "value" literal?
      let type ← required? fields "type_info" (type? .expression)
      return .constant value type
  | .call => do
      let name ← required? fields "name" text?
      let type ← required? fields "type_info" (type? .expression)
      let arguments ← optional? fields "args" [] (list? (expression? fuel .expression))
      return .call name type arguments

theorem assemble?_congr {fuel : Nat} {fields others : List (String × Json)}
    (same : ∀ name, name ≠ "expr" → others.lookup name = fields.lookup name) (tag : Tag) :
    assemble? fuel others tag = assemble? fuel fields tag := by
  have sameRequired {α : Type} (name : String) (different : name ≠ "expr")
      (read : Json → Option α) : required? others name read = required? fields name read := by
    rw [required?, required?, same name different]
  have sameOptional {α : Type} (name : String) (different : name ≠ "expr") (default : α)
      (read : Json → Option α) :
      optional? others name default read = optional? fields name default read := by
    rw [optional?, optional?, same name different]
  cases tag with
  | column =>
      simp only [assemble?, sameOptional "table" (by decide), sameRequired "column" (by decide),
        sameRequired "type_info" (by decide)]
  | constant =>
      simp only [assemble?, sameRequired "value" (by decide),
        sameRequired "type_info" (by decide)]
  | call =>
      simp only [assemble?, sameRequired "name" (by decide), sameRequired "type_info" (by decide),
        sameOptional "args" (by decide)]

theorem expression?_succ_eq_bind {fuel : Nat} {place : Place} {value written record : Json}
    {tag : Tag} (split : untag? value = some (written, record))
    (tagged : tag? place written = some tag) :
    expression? (fuel + 1) place value =
      (fields? tag.fields record).bind fun fields => assemble? fuel fields tag := by
  rw [expression?, split]
  simp only [tagged]
  cases tag <;> rfl

theorem expression?_succ_eq_some_iff (fuel : Nat) (place : Place) (value : Json)
    (expression : Expression) :
    expression? (fuel + 1) place value = some expression ↔
      ∃ tag written record fields, untag? value = some (written, record) ∧
        tag? place written = some tag ∧ fields? tag.fields record = some fields ∧
        assemble? fuel fields tag = some expression := by
  constructor
  · intro read
    cases split : untag? value with
    | none => simp [expression?, split] at read
    | some parts =>
        obtain ⟨written, record⟩ := parts
        cases tagged : tag? place written with
        | none => simp [expression?, split, tagged] at read
        | some tag =>
            rw [expression?_succ_eq_bind split tagged] at read
            obtain ⟨fields, found, assembled⟩ := Option.bind_eq_some_iff.mp read
            exact ⟨tag, written, record, fields, rfl, tagged, found, assembled⟩
  · rintro ⟨tag, written, record, fields, split, tagged, found, assembled⟩
    rw [expression?_succ_eq_bind split tagged, found, Option.bind_some, assembled]

/-- An expression is made of the fields of a record whose tag is one of them. -/
theorem expression?_eq_some_iff (fuel : Nat) (place : Place) (value : Json)
    (expression : Expression) :
    expression? (fuel + 1) place value = some expression ↔
      ∃ tag written fields, fields? ("expr" :: tag.fields) value = some fields ∧
        fields.lookup "expr" = some written ∧ tag? place written = some tag ∧
        assemble? fuel fields tag = some expression := by
  have untagged (earlier later : List (String × Json)) (written : Json) (name : String)
      (different : name ≠ "expr") :
      (earlier ++ later).lookup name = (earlier ++ ("expr", written) :: later).lookup name := by
    rw [List.lookup_append, List.lookup_append, AssociationList.lookup_cons, if_neg different]
  rw [expression?_succ_eq_some_iff]
  constructor
  · rintro ⟨tag, written, record, fields, split, tagged, found, assembled⟩
    obtain ⟨earlier, later, rfl, all⟩ :=
      (untag?_fields?_iff tag.expr_notMem_fields value written fields).mp ⟨record, split, found⟩
    have distinct := nodup_of_fields? tag.nodup_fields all
    refine ⟨tag, written, _, all, ?_, tagged, ?_⟩
    · rw [AssociationList.lookup_eq_some_iff_mem distinct]
      simp
    · rwa [← assemble?_congr (untagged earlier later written)]
  · rintro ⟨tag, written, fields, all, found, tagged, assembled⟩
    obtain ⟨earlier, later, rfl, -⟩ := List.lookup_eq_some_iff.mp found
    obtain ⟨record, split, read⟩ :=
      (untag?_fields?_iff tag.expr_notMem_fields value written _).mpr
        ⟨earlier, later, rfl, all⟩
    refine ⟨tag, written, record, _, split, tagged, read, ?_⟩
    rwa [assemble?_congr (untagged earlier later written)]

end PlanDocument

end RowFunctions

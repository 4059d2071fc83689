import RowFunctions.Proofs.RecordFields

/-!
# Accepted plans can be written back

The reader accepts a plan in many spellings and the printer knows one, so loading
a plan and writing it back is a normalization.  For it to lose nothing, what was
accepted must not be too deep once it is printed.  It is not: in every spelling a
call stands in an array or object of its own with its arguments in an array inside
it, and a type in an array or object inside that of its expression.  Printing uses
no more levels than these.
-/

namespace RowFunctions

namespace PlanDocument

open Expression

/-! ### The levels of an accepted document -/

/-- What the fields of a record hold is readable one level further in. -/
theorem isReadable_of_fields? {names : List String} {value : Json}
    {fields : List (String × Json)} {levels : Nat} (read : fields? names value = some fields)
    (readable : value.isReadable levels = true) :
    ∃ inner, levels = inner + 1 ∧ ∀ entry ∈ fields, entry.2.isReadable inner = true := by
  cases levels with
  | zero => cases value <;> simp [fields?, Json.isReadable] at read readable
  | succ inner =>
      refine ⟨inner, rfl, ?_⟩
      cases value with
      | object members =>
          obtain ⟨-, -, rfl⟩ := (fields?_object_eq_some_iff names members fields).mp read
          rw [Json.isReadable, List.all_eq_true] at readable
          intro entry listed
          have member := readable (some entry.1, entry.2) (mem_knownMembers_iff.mp listed).2
          exact (Bool.and_eq_true_iff.mp member).2
      | array elements =>
          rw [Json.isReadable, List.all_eq_true] at readable
          simp only [fields?, Option.ite_none_right_eq_some, Option.some.injEq] at read
          intro entry listed
          rw [← read.2] at listed
          exact readable entry.2 (List.of_mem_zip listed).2
      | _ => simp [fields?] at read

theorem isReadable_of_lookup {fields : List (String × Json)} {levels : Nat}
    (readable : ∀ entry ∈ fields, entry.2.isReadable levels = true) {name : String} {value : Json}
    (found : fields.lookup name = some value) : value.isReadable levels = true := by
  obtain ⟨before, after, same, -⟩ := List.lookup_eq_some_iff.mp found
  exact readable (name, value) (by simp [same])

/-- A record with a type takes two levels, one for itself and one for the type. -/
theorem exists_levels_of_typed {names : List String} {record : Json}
    {fields : List (String × Json)} {type : SqlType} {levels : Nat}
    (read : fields? names record = some fields)
    (typed : required? fields "type_info" (type? .expression) = some type)
    (readable : record.isReadable levels = true) :
    ∃ inner, levels = inner + 2 ∧ ∀ entry ∈ fields, entry.2.isReadable (inner + 1) = true := by
  obtain ⟨outer, rfl, each⟩ := isReadable_of_fields? read readable
  obtain ⟨value, found, written⟩ := Option.bind_eq_some_iff.mp typed
  obtain ⟨typeFields, typeRead, -⟩ := Option.bind_eq_some_iff.mp written
  obtain ⟨inner, rfl, -⟩ := isReadable_of_fields? typeRead (isReadable_of_lookup each found)
  exact ⟨inner, rfl, each⟩

/-- What is in a list that may be missing was read from an element of an array. -/
theorem exists_of_mem_optional_list? {α : Type} {fields : List (String × Json)} {name : String}
    {read : Json → Option α} {results : List α}
    (given : optional? fields name [] (list? read) = some results) {result : α}
    (member : result ∈ results) :
    ∃ elements, fields.lookup name = some (.array elements) ∧
      ∃ element ∈ elements, read element = some result := by
  unfold optional? at given
  cases found : fields.lookup name with
  | none =>
      rw [found] at given
      injection given with none
      simp [← none] at member
  | some value =>
      simp only [found] at given
      cases value with
      | array elements => exact ⟨elements, rfl, exists_of_mem_of_mapM given member⟩
      | _ => simp [list?] at given

theorem argumentNesting_le {expressions : List Expression} {levels : Nat}
    (each : ∀ expression ∈ expressions, 2 * expression.callNesting + 2 ≤ levels) :
    2 * argumentNesting expressions ≤ levels := by
  induction expressions with
  | nil => exact Nat.zero_le _
  | cons expression expressions ih =>
      obtain ⟨first, others⟩ := List.forall_mem_cons.mp each
      have rest := ih others
      rw [argumentNesting]
      omega

/-- Every form of expression has a type. -/
theorem exists_type_of_assemble? {fuel : Nat} {fields : List (String × Json)} {tag : Tag}
    {expression : Expression} (assembled : assemble? fuel fields tag = some expression) :
    ∃ type, required? fields "type_info" (type? .expression) = some type := by
  cases tag <;> simp only [assemble?, Option.bind_eq_bind, Option.bind_eq_some_iff] at assembled
  · obtain ⟨-, -, -, -, type, typed, -⟩ := assembled
    exact ⟨type, typed⟩
  · obtain ⟨-, -, type, typed, -⟩ := assembled
    exact ⟨type, typed⟩
  · obtain ⟨-, -, type, typed, -⟩ := assembled
    exact ⟨type, typed⟩

/-- In whatever spelling, an expression takes two levels for every nested call and
two for itself. -/
theorem callNesting_le_of_expression? {fuel : Nat} {place : Place} {value : Json}
    {expression : Expression} {levels : Nat}
    (reads : expression? fuel place value = some expression)
    (readable : value.isReadable levels = true) :
    2 * expression.callNesting + 2 ≤ levels := by
  induction fuel generalizing place value expression levels with
  | zero => contradiction
  | succ fuel ih =>
      obtain ⟨tag, written, fields, found, -, -, assembled⟩ :=
        (expression?_eq_some_iff fuel place value expression).mp reads
      obtain ⟨type, typed⟩ := exists_type_of_assemble? assembled
      obtain ⟨inner, rfl, each⟩ := exists_levels_of_typed found typed readable
      cases tag with
      | column =>
          simp only [assemble?, bind_pure_comp, Option.bind_eq_bind, Option.bind_eq_some_iff,
            Option.map_eq_map, Option.map_eq_some_iff] at assembled
          obtain ⟨table, -, name, -, type, -, rfl⟩ := assembled
          simp [callNesting]
      | constant =>
          simp only [assemble?, bind_pure_comp, Option.bind_eq_bind, Option.bind_eq_some_iff,
            Option.map_eq_map, Option.map_eq_some_iff] at assembled
          obtain ⟨literal, -, type, -, rfl⟩ := assembled
          simp [callNesting]
      | call =>
          simp only [assemble?, bind_pure_comp, Option.bind_eq_bind, Option.bind_eq_some_iff,
            Option.map_eq_map, Option.map_eq_some_iff] at assembled
          obtain ⟨name, -, type, -, arguments, given, rfl⟩ := assembled
          have nested : 2 * argumentNesting arguments ≤ inner := by
            refine argumentNesting_le fun argument member => ?_
            obtain ⟨elements, listed, element, present, written⟩ :=
              exists_of_mem_optional_list? given member
            have readable := isReadable_of_lookup each listed
            rw [Json.isReadable, List.all_eq_true] at readable
            exact ih written (readable element present)
          rw [callNesting]
          omega

/-- What is accepted within some levels is read back from its print within them. -/
theorem readableExpression?_ofExpression {expression : Expression} {levels : Nat}
    (shallow : 2 * expression.callNesting + 2 ≤ levels)
    (reads : ∀ value ∈ expression.doubles, (Literal.double value).ReadsBack) :
    readableExpression? levels (ofExpression expression) = some expression := by
  rw [readableExpression?, if_pos (isReadable_ofExpression expression shallow reads)]
  exact expression?_ofExpression expression .document (by omega) reads

theorem callNesting_le_of_readableExpression? {levels : Nat} {value : Json}
    {expression : Expression} (reads : readableExpression? levels value = some expression) :
    2 * expression.callNesting + 2 ≤ levels := by
  rw [readableExpression?, Option.ite_none_right_eq_some] at reads
  exact callNesting_le_of_expression? reads.2 reads.1

/-- Every target of an accepted plan is accepted within the levels that a plan leaves
its targets. -/
theorem callNesting_le_of_plan? {value : Json} {plan : Plan} (reads : plan? value = some plan) :
    ∀ target ∈ plan.targets, 2 * target.callNesting + 2 ≤ Json.nestingLimit - 2 := by
  simp only [plan?, bind_pure_comp, Option.bind_eq_bind, Option.bind_eq_some_iff,
    Option.map_eq_map, Option.map_eq_some_iff] at reads
  obtain ⟨fields, -, targets, given, rfl⟩ := reads
  intro target member
  obtain ⟨elements, -, element, -, written⟩ := exists_of_mem_optional_list? given member
  exact callNesting_le_of_readableExpression? written

end PlanDocument

namespace Plan

/-- A plan that was accepted, in whatever spelling, is never too deep to be written
back.  If its doubles are read back from their own print, the printed plan is read
as the same plan and prints as the same text again. -/
theorem accepted_plans_read_back {text : String} {plan : Plan}
    (accepted : parse? text = some plan) :
    (∀ target ∈ plan.targets, target.callNesting ≤ nestingLimit) ∧
    ((∀ value ∈ plan.doubles, (Literal.double value).ReadsBack) →
      parse? plan.pretty = some plan ∧
        ∀ again, parse? plan.pretty = some again → again.pretty = plan.pretty) := by
  obtain ⟨document, -, reads⟩ := Option.bind_eq_some_iff.mp accepted
  have shallow := PlanDocument.callNesting_le_of_plan? reads
  refine ⟨fun target member => ?_, fun doubles => ?_⟩
  · have levels := shallow target member
    unfold Json.nestingLimit at levels
    unfold nestingLimit
    omega
  · have readBack : parse? plan.pretty = some plan := by
      rw [parse?_pretty, PlanDocument.mapM_ofExpressions]
      · rfl
      · intro target member
        refine PlanDocument.readableExpression?_ofExpression (shallow target member) ?_
        intro value inside
        have listed := (Expression.mem_allDoubles value plan.targets).mpr ⟨target, member, inside⟩
        exact doubles value listed
    refine ⟨readBack, fun again reread => ?_⟩
    rw [readBack, Option.some.injEq] at reread
    rw [reread]

/-- Records as arrays, a member nobody knows and negative zero as an integer: the
constant is a double, and it stays negative. -/
theorem accepted_plans_read_back_of_negative_zero :
    let text := "\x7b\"later\": [null], \"target_exprs\": [[\"constant\", -0, [\"double\"]]]\x7d"
    let plan : Plan := ⟨[.constant (.double (-0.0)) (.scalar .double)]⟩
    parse? text = some plan ∧ (Literal.double (-0.0)).ReadsBack ∧
      parse? plan.pretty = some plan := by
  intro text plan
  let target : Json := .array [.string (some "constant"), .number ⟨true, 0, [], none⟩,
    .array [.string (some "double")]]
  have written : Json.parse? text = some (.object [(some "later", .array [.null]),
      (some "target_exprs", .array [target])]) := by cbv
  have understood : (⟨true, 0, [], none⟩ : NumberLiteral).double? = some (-0.0) := by
    decide +kernel
  have constant : PlanDocument.readableExpression? (Json.nestingLimit - 2) target =
      some (.constant (.double (-0.0)) (.scalar .double)) := by
    simp [target, PlanDocument.readableExpression?, Json.nestingLimit, Json.isReadable,
      PlanDocument.expression?, PlanDocument.untag?, PlanDocument.tag?, PlanDocument.tagNames,
      PlanDocument.fields?, PlanDocument.constantFields, PlanDocument.required?,
      PlanDocument.optional?, PlanDocument.literal?, NumberLiteral.value?, understood,
      PlanDocument.type?, PlanDocument.typeFields, PlanDocument.kindNames,
      PlanDocument.choice?, SqlType.scalar, List.lookup]
  have accepted : parse? text = some plan := by
    simp [parse?, written, PlanDocument.plan?, PlanDocument.fields?, PlanDocument.namedMembers?,
      PlanDocument.planFields, PlanDocument.optional?, PlanDocument.list?, List.lookup, constant,
      plan]
  have printed : NumberLiteral.ofDouble? (-0.0) = some ⟨true, 0, [0], none⟩ := by decide +kernel
  have denoted : (⟨true, 0, [0], none⟩ : NumberLiteral).double? = some (-0.0) := by
    decide +kernel
  have reads : (Literal.double (-0.0)).ReadsBack := by
    rw [Literal.ReadsBack, Json.parse?_pretty (PlanDocument.hasTexts_ofLiteral _)]
    simp [PlanDocument.ofLiteral, printed, PlanDocument.literal?, NumberLiteral.value?, denoted]
  have doubles : ∀ value ∈ plan.doubles, (Literal.double value).ReadsBack := by
    intro value member
    have single : value ∈ [(-0.0 : Float)] := member
    rw [List.mem_singleton] at single
    exact single ▸ reads
  exact ⟨accepted, reads, ((accepted_plans_read_back accepted).2 doubles).1⟩

end Plan

end RowFunctions

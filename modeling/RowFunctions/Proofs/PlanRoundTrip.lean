import RowFunctions.Proofs.PlanFields

/-!
# Printed plans are read back

A plan is read back from its print when its calls nest no deeper than 61 levels
and its doubles are read back alone.  The printer has no limit, but every call
inside a call takes two levels of the document, an array and an object, and the
reader stops at 127 levels; so a plan with a deeper target is refused.
-/

namespace RowFunctions

namespace Expression

mutual

/-- How deep calls nest inside an expression: a call is one level deeper than its
deepest argument, and without arguments it has no depth. -/
def callNesting : Expression → Nat
  | column _ _ _ => 0
  | constant _ _ => 0
  | call _ _ arguments => argumentNesting arguments

def argumentNesting : List Expression → Nat
  | [] => 0
  | expression :: expressions => max (callNesting expression + 1) (argumentNesting expressions)

end

mutual

def doubles : Expression → List Float
  | column _ _ _ => []
  | constant (.double value) _ => [value]
  | constant _ _ => []
  | call _ _ arguments => allDoubles arguments

def allDoubles : List Expression → List Float
  | [] => []
  | expression :: expressions => doubles expression ++ allDoubles expressions

end

theorem mem_allDoubles (value : Float) (expressions : List Expression) :
    value ∈ allDoubles expressions ↔
      ∃ expression ∈ expressions, value ∈ expression.doubles := by
  induction expressions with
  | nil => simp [allDoubles]
  | cons expression expressions ih => simp [allDoubles, ih]

end Expression

/-- The doubles among the constants of a plan. -/
def Plan.doubles (plan : Plan) : List Float := Expression.allDoubles plan.targets

/-- How deep calls may nest in a plan that is to be read back. -/
def Plan.nestingLimit : Nat := 61

namespace PlanDocument

open Expression

mutual

theorem hasTexts_ofExpression (expression : Expression) :
    (ofExpression expression).HasTexts := by
  cases expression with
  | column table name type =>
      cases table <;>
        simp [ofExpression, ofText, Json.HasTexts, Json.MembersHaveTexts, hasTexts_ofType]
  | constant literal type =>
      simp [ofExpression, ofText, Json.HasTexts, Json.MembersHaveTexts, hasTexts_ofType,
        hasTexts_ofLiteral]
  | call name type arguments =>
      have inside := hasTexts_ofExpressions arguments
      simp [ofExpression, ofText, Json.HasTexts, Json.MembersHaveTexts, hasTexts_ofType, inside]

theorem hasTexts_ofExpressions (expressions : List Expression) :
    Json.AllHaveTexts (ofExpressions expressions) := by
  cases expressions with
  | nil => trivial
  | cons expression expressions =>
      exact ⟨hasTexts_ofExpression expression, hasTexts_ofExpressions expressions⟩

end

theorem hasTexts_ofPlan (plan : Plan) : (ofPlan plan).HasTexts := by
  simp [ofPlan, Json.HasTexts, Json.MembersHaveTexts, hasTexts_ofExpressions]

/-- The tag of an expression's own object is split off, and what is left has the
other members as its fields. -/
theorem untag?_record {names : List String} (tag : Json) (members : List (String × Json))
    (reserved : "expr" ∉ names) (known : ∀ entry ∈ members, entry.1 ∈ names)
    (different : (members.map Prod.fst).Nodup) :
    ∃ record, untag? (.object ((some "expr", tag) ::
        members.map fun entry => (some entry.1, entry.2))) = some (tag, record) ∧
      fields? names record = some members := by
  have untagged : ∀ entry ∈ members.map fun entry => (some entry.1, entry.2),
      entry.1 ≠ some "expr" := by
    intro entry member
    obtain ⟨named, present, rfl⟩ := List.mem_map.mp member
    rintro same
    exact reserved (Option.some.inj same ▸ known named present)
  have kept : (members.map fun entry => (some entry.1, entry.2)).filter
      (fun entry => entry.1 != some "expr") =
        members.map fun entry => (some entry.1, entry.2) := by
    apply List.filter_eq_self.mpr
    intro entry member
    exact bne_iff_ne.mpr (untagged entry member)
  have dropped : (members.map fun entry => (some entry.1, entry.2)).filter
      (fun entry => entry.1 == some "expr") = [] := by
    apply List.filter_eq_nil_iff.mpr
    intro entry member
    rw [beq_iff_eq]
    exact untagged entry member
  refine ⟨.object (members.map fun entry => (some entry.1, entry.2)), ?_,
    fields?_object names members known different⟩
  rw [untag?, List.filter_cons_of_pos rfl, dropped, List.filter_cons_of_neg (by simp), kept]

theorem mapM_ofExpressions {read : Json → Option Expression} {expressions : List Expression}
    (reads : ∀ expression ∈ expressions, read (ofExpression expression) = some expression) :
    (ofExpressions expressions).mapM read = some expressions := by
  induction expressions with
  | nil => rfl
  | cons expression expressions ih =>
      obtain ⟨first, others⟩ := List.forall_mem_cons.mp reads
      simp [ofExpressions, first, ih others]

theorem mapM_ofExpressions_eq_none {read : Json → Option Expression}
    {expressions : List Expression} {refused : Expression} (member : refused ∈ expressions)
    (fails : read (ofExpression refused) = none) :
    (ofExpressions expressions).mapM read = none := by
  induction expressions with
  | nil => contradiction
  | cons expression expressions ih =>
      rw [ofExpressions, List.mapM_cons]
      rcases List.mem_cons.mp member with rfl | later
      · simp [fails]
      · cases read (ofExpression expression) <;> simp [ih later]

mutual

/-- An expression is read back from its document when the fuel exceeds its
nesting and its doubles are read back. -/
theorem expression?_ofExpression (expression : Expression) (place : Place) {fuel : Nat}
    (enough : expression.callNesting < fuel)
    (reads : ∀ value ∈ expression.doubles, (Literal.double value).ReadsBack) :
    expression? fuel place (ofExpression expression) = some expression := by
  obtain ⟨fuel, rfl⟩ := Nat.exists_eq_succ_of_ne_zero (Nat.ne_zero_of_lt enough)
  cases expression with
  | column table name type =>
      have tagged : tag? place (ofText "column_var") = some .column := rfl
      cases table with
      | none =>
          obtain ⟨record, untagged, fields⟩ := untag?_record (ofText "column_var")
            [("column", ofText name), ("type_info", ofType type)]
            (by decide : "expr" ∉ columnFields) (by simp [columnFields]) (by simp)
          simp only [List.map_cons, List.map_nil] at untagged
          simp [expression?, ofExpression, untagged, tagged, fields, required?, optional?,
            List.lookup]
      | some table =>
          obtain ⟨record, untagged, fields⟩ := untag?_record (ofText "column_var")
            [("table", ofText table), ("column", ofText name), ("type_info", ofType type)]
            (by decide : "expr" ∉ columnFields) (by simp [columnFields]) (by simp)
          simp only [List.map_cons, List.map_nil] at untagged
          simp [expression?, ofExpression, untagged, tagged, fields, required?, optional?,
            List.lookup]
  | constant literal type =>
      have tagged : tag? place (ofText "constant") = some .constant := rfl
      have literalRead : literal? (ofLiteral literal) = some literal := by
        apply literal?_ofLiteral
        rintro value rfl
        exact reads value (List.mem_singleton.mpr rfl)
      obtain ⟨record, untagged, fields⟩ := untag?_record (ofText "constant")
        [("value", ofLiteral literal), ("type_info", ofType type)]
        (by decide : "expr" ∉ constantFields) (by simp [constantFields]) (by simp)
      simp only [List.map_cons, List.map_nil] at untagged
      simp [expression?, ofExpression, untagged, tagged, fields, required?, List.lookup,
        literalRead]
  | call name type arguments =>
      have tagged : tag? place (ofText "function_oper") = some .call := rfl
      have argumentsRead := mapM_ofExpressions
        (expression?_of_mem arguments (Nat.le_of_lt_succ enough) reads)
      obtain ⟨record, untagged, fields⟩ := untag?_record (ofText "function_oper")
        [("name", ofText name), ("type_info", ofType type),
          ("args", .array (ofExpressions arguments))]
        (by decide : "expr" ∉ callFields) (by simp [callFields]) (by simp)
      simp only [List.map_cons, List.map_nil] at untagged
      simp [expression?, ofExpression, untagged, tagged, fields, required?, optional?,
        List.lookup, list?, argumentsRead]

theorem expression?_of_mem (expressions : List Expression) {fuel : Nat}
    (enough : argumentNesting expressions ≤ fuel)
    (reads : ∀ value ∈ allDoubles expressions, (Literal.double value).ReadsBack) :
    ∀ expression ∈ expressions,
      expression? fuel .expression (ofExpression expression) = some expression := by
  cases expressions with
  | nil => simp
  | cons expression expressions =>
      rw [argumentNesting] at enough
      rw [allDoubles] at reads
      rw [List.forall_mem_cons]
      constructor
      · exact expression?_ofExpression expression .expression (by omega)
          fun value member => reads value (List.mem_append_left _ member)
      · exact expression?_of_mem expressions (by omega)
          fun value member => reads value (List.mem_append_right _ member)

end

theorem isReadable_call (levels : Nat) (name : String) (type : SqlType)
    (arguments : List Expression) :
    (ofExpression (.call name type arguments)).isReadable (levels + 2) =
      (ofExpressions arguments).all (Json.isReadable levels) := by
  have typeReadable := isReadable_ofType levels type
  simp [ofExpression, ofText, Json.isReadable, typeReadable]

mutual

/-- A readable document of an expression leaves two levels for every nested call
and two for the expression itself. -/
theorem callNesting_le_of_isReadable (expression : Expression) {levels : Nat}
    (readable : (ofExpression expression).isReadable levels = true) :
    2 * expression.callNesting + 2 ≤ levels := by
  -- The object of an expression and the object of its type already take two levels.
  match levels with
  | 0 => cases expression <;> simp [ofExpression, Json.isReadable] at readable
  | 1 => cases expression <;> simp [ofExpression, Json.isReadable, ofType] at readable
  | levels + 2 =>
      cases expression with
      | column table name type => simp [callNesting]
      | constant literal type => simp [callNesting]
      | call name type arguments =>
          rw [isReadable_call] at readable
          have inside := argumentNesting_le_of_isReadable arguments readable
          rw [callNesting]
          omega

theorem argumentNesting_le_of_isReadable (expressions : List Expression) {levels : Nat}
    (readable : (ofExpressions expressions).all (Json.isReadable levels) = true) :
    2 * argumentNesting expressions ≤ levels := by
  cases expressions with
  | nil => exact Nat.zero_le _
  | cons expression expressions =>
      rw [ofExpressions, List.all_cons, Bool.and_eq_true] at readable
      have first := callNesting_le_of_isReadable expression readable.1
      have others := argumentNesting_le_of_isReadable expressions readable.2
      rw [argumentNesting]
      omega

end

mutual

/-- Two levels for every nested call and two for the expression itself make its
document readable. -/
theorem isReadable_ofExpression (expression : Expression) {levels : Nat}
    (shallow : 2 * expression.callNesting + 2 ≤ levels)
    (reads : ∀ value ∈ expression.doubles, (Literal.double value).ReadsBack) :
    (ofExpression expression).isReadable levels = true := by
  obtain ⟨levels, rfl⟩ := Nat.exists_eq_add_of_le' (Nat.le_of_add_left_le shallow)
  have typeReadable (type : SqlType) := isReadable_ofType levels type
  cases expression with
  | column table name type =>
      cases table <;> simp [ofExpression, ofText, Json.isReadable, typeReadable]
  | constant literal type =>
      have literalReadable : (ofLiteral literal).isReadable (levels + 1) = true := by
        apply isReadable_of_literal? (literal?_ofLiteral _)
        rintro value rfl
        exact reads value (List.mem_singleton.mpr rfl)
      simp [ofExpression, ofText, Json.isReadable, typeReadable, literalReadable]
  | call name type arguments =>
      rw [isReadable_call]
      exact isReadable_ofExpressions arguments (Nat.le_of_add_le_add_right shallow) reads

theorem isReadable_ofExpressions (expressions : List Expression) {levels : Nat}
    (shallow : 2 * argumentNesting expressions ≤ levels)
    (reads : ∀ value ∈ allDoubles expressions, (Literal.double value).ReadsBack) :
    (ofExpressions expressions).all (Json.isReadable levels) = true := by
  cases expressions with
  | nil => rfl
  | cons expression expressions =>
      rw [argumentNesting] at shallow
      rw [allDoubles] at reads
      rw [ofExpressions, List.all_cons, Bool.and_eq_true]
      constructor
      · exact isReadable_ofExpression expression (by omega)
          fun value member => reads value (List.mem_append_left _ member)
      · exact isReadable_ofExpressions expressions (by omega)
          fun value member => reads value (List.mem_append_right _ member)

end

theorem plan?_ofPlan (plan : Plan) :
    plan? (ofPlan plan) =
      ((ofExpressions plan.targets).mapM
        (readableExpression? (Json.nestingLimit - 2))).map Plan.mk := by
  have fields := fields?_object planFields
    [("target_exprs", .array (ofExpressions plan.targets))] (by simp [planFields]) (by simp)
  simp only [List.map_cons, List.map_nil] at fields
  simp only [plan?, ofPlan, fields, optional?, List.lookup, beq_self_eq_true, list?,
    bind_pure_comp, Option.bind_eq_bind, Option.bind_some, Option.map_eq_map]

end PlanDocument

namespace Plan

theorem parse?_pretty (plan : Plan) :
    parse? plan.pretty =
      ((PlanDocument.ofExpressions plan.targets).mapM
        (PlanDocument.readableExpression? (Json.nestingLimit - 2))).map Plan.mk := by
  rw [parse?, pretty, Json.parse?_pretty (PlanDocument.hasTexts_ofPlan plan), Option.bind_some,
    PlanDocument.plan?_ofPlan]

/-- A plan is read back from its print exactly as far as the reader's nesting
allows.  Doubles have to be read back alone, since their shortest digits may
denote a neighbour to this reader; a plan that nests too deeply is refused
whatever its constants are. -/
theorem reads_back_up_to_nestingLimit (plan : Plan) :
    ((∀ target ∈ plan.targets, target.callNesting ≤ nestingLimit) →
      (∀ value ∈ plan.doubles, (Literal.double value).ReadsBack) →
        parse? plan.pretty = some plan) ∧
    ((∃ target ∈ plan.targets, nestingLimit < target.callNesting) →
      parse? plan.pretty = none) := by
  constructor
  · intro shallow reads
    have targets : (PlanDocument.ofExpressions plan.targets).mapM
        (PlanDocument.readableExpression? (Json.nestingLimit - 2)) = some plan.targets := by
      apply PlanDocument.mapM_ofExpressions
      intro target member
      have nesting := shallow target member
      have doubles : ∀ value ∈ target.doubles, (Literal.double value).ReadsBack :=
        fun value inside =>
          reads value ((Expression.mem_allDoubles value plan.targets).mpr ⟨target, member, inside⟩)
      unfold nestingLimit at nesting
      have readable : (PlanDocument.ofExpression target).isReadable
          (Json.nestingLimit - 2) = true :=
        PlanDocument.isReadable_ofExpression target (by unfold Json.nestingLimit; omega) doubles
      rw [PlanDocument.readableExpression?, if_pos readable]
      exact PlanDocument.expression?_ofExpression target .document
        (by unfold Json.nestingLimit; omega) doubles
    rw [parse?_pretty, targets]
    rfl
  · rintro ⟨target, member, deep⟩
    have refused : PlanDocument.readableExpression? (Json.nestingLimit - 2)
        (PlanDocument.ofExpression target) = none := by
      rw [PlanDocument.readableExpression?, if_neg]
      intro readable
      have shallow := PlanDocument.callNesting_le_of_isReadable target readable
      unfold nestingLimit at deep
      unfold Json.nestingLimit at shallow
      omega
    rw [parse?_pretty, PlanDocument.mapM_ofExpressions_eq_none member refused]
    rfl

/-- A plan with a double, a quote and a control character is read back; calls that
nest one level too deep are refused. -/
theorem reads_back_up_to_nestingLimit_of_half :
    let plan : Plan := ⟨[.call "concat" .text [.constant (.double 0.5) (.scalar .double),
      .constant (.text "say \"\x01\"") .text, .column (some "t") "c" (.dictionaryText 3)]]⟩
    let deep : Plan := ⟨[(List.replicate 62 "upper").foldr
      (fun name argument => .call name .text [argument]) (.column none "c" .text)]⟩
    (Literal.double 0.5).ReadsBack ∧ parse? plan.pretty = some plan ∧
      parse? deep.pretty = none := by
  intro plan deep
  have printed : NumberLiteral.ofDouble? 0.5 = some ⟨false, 0, [5], none⟩ := by decide +kernel
  have denoted : (⟨false, 0, [5], none⟩ : NumberLiteral).double? = some 0.5 := by
    decide +kernel
  have reads : (Literal.double 0.5).ReadsBack := by
    rw [Literal.ReadsBack, Json.parse?_pretty (PlanDocument.hasTexts_ofLiteral _)]
    simp [PlanDocument.ofLiteral, printed, PlanDocument.literal?, NumberLiteral.value?, denoted]
  have shallow : ∀ target ∈ plan.targets, target.callNesting ≤ nestingLimit := by decide
  have doubles : ∀ value ∈ plan.doubles, (Literal.double value).ReadsBack := by
    intro value member
    have single : value ∈ [(0.5 : Float)] := member
    rw [List.mem_singleton] at single
    exact single ▸ reads
  have tooDeep : ∃ target ∈ deep.targets, nestingLimit < target.callNesting :=
    ⟨_, List.mem_singleton.mpr rfl, by decide +kernel⟩
  exact ⟨reads, (reads_back_up_to_nestingLimit plan).1 shallow doubles,
    (reads_back_up_to_nestingLimit deep).2 tooDeep⟩

end Plan

end RowFunctions

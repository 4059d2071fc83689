import RowFunctions.PlanDocuments
import RowFunctions.Proofs.JsonRoundTrip

/-!
# Fields of plan documents

Each part of a plan document that is not an expression is read back: choices,
words, types and constants.  A record is read back from its own object because
its members are all known and all different.
-/

namespace RowFunctions

namespace Json

@[simp]
theorem isReadable_null (levels : Nat) : isReadable levels null = true := by
  cases levels <;> rfl

@[simp]
theorem isReadable_boolean (levels : Nat) (value : Bool) :
    isReadable levels (boolean value) = true := by
  cases levels <;> rfl

@[simp]
theorem isReadable_number (levels : Nat) (literal : NumberLiteral) :
    isReadable levels (number literal) = literal.value?.isSome := by
  cases levels <;> rfl

@[simp]
theorem isReadable_string (levels : Nat) (contents : Option String) :
    isReadable levels (string contents) = contents.isSome := by
  cases levels <;> rfl

end Json

/-- The literal of an integer of 64 bits, signed or not, denotes it. -/
theorem NumberLiteral.value?_ofInt {number : Int} (low : -2 ^ 63 ≤ number)
    (high : number < 2 ^ 64) : (ofInt number).value? = some (.integer number) := by
  have magnitude : (number.natAbs : Int) = if number < 0 then -number else number := by
    split <;> omega
  unfold value? ofInt
  by_cases negative : number < 0
  · have smallest : Int64.minValue.toInt = -2 ^ 63 := by decide
    rw [if_pos negative] at magnitude
    have fits : 0 < number.natAbs ∧ Int64.minValue.toInt ≤ number := by omega
    simp only [negative, decide_true, and_self, if_true, magnitude, Int.neg_neg, if_pos fits]
  · rw [if_neg negative] at magnitude
    have words : wordBound = 2 ^ 64 := rfl
    have fits : number.natAbs < wordBound := by omega
    simp only [negative, decide_false, and_self, if_true, if_pos fits, magnitude,
      Bool.false_eq_true, if_false]

namespace PlanDocument

@[simp]
theorem text?_ofText (text : String) : text? (ofText text) = some text := rfl

@[simp]
theorem nullable?_text?_ofText (text : String) :
    nullable? text? (ofText text) = some (some text) := rfl

theorem choice?_nameOf_kind (place : Place) (kind : SqlKind) :
    choice? place kindNames (nameOf kindNames kind) = some kind := by
  cases kind <;> rfl

theorem choice?_nameOf_encoding (place : Place) (encoding : Encoding) :
    choice? place encodingNames (nameOf encodingNames encoding) = some encoding := by
  cases encoding <;> rfl

theorem int32?_ofInt (word : Int32) :
    int32? (.number (NumberLiteral.ofInt word.toInt)) = some word := by
  have low := word.le_toInt
  have high := word.toInt_lt
  have integer : (NumberLiteral.ofInt word.toInt).value? = some (.integer word.toInt) :=
    NumberLiteral.value?_ofInt (by omega) (by omega)
  simp only [int32?, integer, Int32.minValue_le_toInt, Int32.toInt_le, and_self, if_true,
    Int32.ofInt_toInt]

theorem forall₂_of_mapM {Value Result : Type} {read : Value → Option Result}
    {values : List Value} {results : List Result} (read_all : values.mapM read = some results) :
    List.Forall₂ (fun value result => read value = some result) values results := by
  induction values generalizing results with
  | nil =>
      injection read_all with same
      subst same
      exact .nil
  | cons value values ih =>
      rw [List.mapM_cons] at read_all
      obtain ⟨first, one, rest⟩ := Option.bind_eq_some_iff.mp read_all
      obtain ⟨others, more, same⟩ := Option.bind_eq_some_iff.mp rest
      injection same with same
      subst same
      exact .cons one (ih more)

theorem exists_of_mem_of_mapM {Value Result : Type} {read : Value → Option Result}
    {values : List Value} {results : List Result} (read_all : values.mapM read = some results)
    {result : Result} (member : result ∈ results) : ∃ value ∈ values, read value = some result := by
  have pairs := forall₂_of_mapM read_all
  clear read_all
  induction pairs with
  | nil => contradiction
  | cons one _ ih =>
      rcases List.mem_cons.mp member with rfl | later
      · exact ⟨_, List.mem_cons_self, one⟩
      · obtain ⟨value, listed, reads⟩ := ih later
        exact ⟨value, List.mem_cons_of_mem _ listed, reads⟩

theorem fields?_object (names : List String) (members : List (String × Json))
    (known : ∀ entry ∈ members, entry.1 ∈ names) (different : (members.map Prod.fst).Nodup) :
    fields? names (.object (members.map fun entry => (some entry.1, entry.2))) =
      some members := by
  have named : namedMembers? (members.map fun entry => (some entry.1, entry.2)) =
      some members := by
    rw [namedMembers?, List.mapM_map]
    exact (List.mapM_pure (f := id)).trans (congrArg some members.map_id)
  have all : (members.filter fun entry => names.contains entry.1) = members := by
    apply List.filter_eq_self.mpr
    intro entry member
    exact List.contains_iff_mem.mpr (known entry member)
  simp only [fields?, named, all, if_pos different]

/-- A type is read back from its document. -/
@[simp]
theorem type?_ofType (place : Place) (type : SqlType) :
    type? place (ofType type) = some type := by
  obtain ⟨kind, element, encoding, parameter, nullable⟩ := type
  have kindRead := choice?_nameOf_kind place kind
  have encodingRead := choice?_nameOf_encoding place encoding
  have parameterRead := int32?_ofInt parameter
  have nullableRead : boolean? (.boolean nullable) = some nullable := rfl
  cases element with
  | none =>
      have fields := fields?_object typeFields
        [("kind", nameOf kindNames kind), ("encoding", nameOf encodingNames encoding),
          ("comp_param", .number (NumberLiteral.ofInt parameter.toInt)),
          ("nullable", .boolean nullable)] (by simp [typeFields]) (by simp)
      simp only [List.map_cons, List.map_nil] at fields
      simp [type?, ofType, fields, required?, optional?, List.lookup, kindRead, encodingRead,
        parameterRead, nullableRead]
  | some element =>
      have elementRead : nullable? (choice? place kindNames) (nameOf kindNames element) =
          some (some element) := by
        cases element <;> rfl
      have fields := fields?_object typeFields
        [("kind", nameOf kindNames kind), ("subtype", nameOf kindNames element),
          ("encoding", nameOf encodingNames encoding),
          ("comp_param", .number (NumberLiteral.ofInt parameter.toInt)),
          ("nullable", .boolean nullable)] (by simp [typeFields]) (by simp)
      simp only [List.map_cons, List.map_nil] at fields
      simp [type?, ofType, fields, required?, optional?, List.lookup, kindRead, elementRead,
        encodingRead, parameterRead, nullableRead]

theorem hasTexts_ofType (type : SqlType) : (ofType type).HasTexts := by
  obtain ⟨kind, element, encoding, parameter, nullable⟩ := type
  have kinds (kind : SqlKind) : (nameOf kindNames kind).HasTexts := by cases kind <;> rfl
  have encodings : (nameOf encodingNames encoding).HasTexts := by cases encoding <;> rfl
  cases element <;>
    simp [ofType, Json.HasTexts, Json.MembersHaveTexts, kinds, encodings]

theorem isReadable_ofType (levels : Nat) (type : SqlType) :
    (ofType type).isReadable (levels + 1) = true := by
  obtain ⟨kind, element, encoding, parameter, nullable⟩ := type
  have kinds (kind : SqlKind) : (nameOf kindNames kind).isReadable levels = true := by
    rw [nameOf, Json.isReadable_string]
    cases kind <;> rfl
  have encodings : (nameOf encodingNames encoding).isReadable levels = true := by
    rw [nameOf, Json.isReadable_string]
    cases encoding <;> rfl
  have integer : (NumberLiteral.ofInt parameter.toInt).value? =
      some (.integer parameter.toInt) := by
    have low := parameter.le_toInt
    have high := parameter.toInt_lt
    exact NumberLiteral.value?_ofInt (by omega) (by omega)
  cases element <;> simp [ofType, Json.isReadable, kinds, encodings, integer]

end PlanDocument

/-- A constant is read back from its own printed text. -/
def Literal.ReadsBack (literal : Literal) : Prop :=
  (Json.parse? (PlanDocument.ofLiteral literal).pretty).bind PlanDocument.literal? =
    some literal

namespace PlanDocument

theorem hasTexts_ofLiteral (literal : Literal) : (ofLiteral literal).HasTexts := by
  cases literal with
  | double value =>
      rw [ofLiteral]
      cases NumberLiteral.ofDouble? value <;> trivial
  | text value => rfl
  | _ => trivial

/-- A constant that is not a double is read back.  About a double nothing is
said: its digits may denote a neighbouring double or none. -/
theorem literal?_ofLiteral {literal : Literal}
    (doubles : ∀ value, literal = .double value → literal.ReadsBack) :
    literal? (ofLiteral literal) = some literal := by
  cases literal with
  | null => rfl
  | boolean value => rfl
  | integer value =>
      have low := value.le_toInt
      have high := value.toInt_lt
      have integer : (NumberLiteral.ofInt value.toInt).value? = some (.integer value.toInt) :=
        NumberLiteral.value?_ofInt (by omega) (by omega)
      simp only [ofLiteral, literal?, integer, Int64.toInt_le, if_true, Int64.ofInt_toInt]
  | double value =>
      have reads := doubles value rfl
      rwa [Literal.ReadsBack, Json.parse?_pretty (hasTexts_ofLiteral _)] at reads
  | text value => rfl

/-- What is read as a constant is readable at any depth. -/
theorem isReadable_of_literal? {document : Json} {literal : Literal}
    (reads : literal? document = some literal) (levels : Nat) :
    document.isReadable levels = true := by
  cases document with
  | null => exact Json.isReadable_null levels
  | boolean value => exact Json.isReadable_boolean levels value
  | number digits =>
      rw [Json.isReadable_number]
      cases number : digits.value? with
      | none => simp [literal?, number] at reads
      | some value => rfl
  | string contents =>
      rw [Json.isReadable_string]
      cases contents with
      | none => simp [literal?] at reads
      | some text => rfl
  | array elements => simp [literal?] at reads
  | object members => simp [literal?] at reads

end PlanDocument

end RowFunctions

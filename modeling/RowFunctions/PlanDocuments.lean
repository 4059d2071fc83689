import RowFunctions.Expressions
import RowFunctions.JsonPrinter
import RowFunctions.JsonReader

/-!
# Plans as JSON documents

A record is an object with the record's fields as members, in any order and
among unknown members, or an array of the fields in order whose last fields may
be missing.  A name from a fixed choice is a string, or an object whose only
member has that name and a null value.

An expression is a record with one more field, its tag, which comes first when
the record is an array.  The whole of an expression has to be readable, also the
parts that are ignored.  Expressions inside an expression are read a little more
freely than others: a name may also stand before an empty object, and the tag
may be the number of the choice.
-/

namespace RowFunctions

namespace PlanDocument

/-- Where a value is read: directly in a document, or inside an expression. -/
inductive Place where
  | document
  | expression
deriving DecidableEq

/-- The members of an object without a string that has no text as key. -/
def namedMembers? (members : List (Option String × Json)) : Option (List (String × Json)) :=
  members.mapM fun entry => entry.1.map fun key => (key, entry.2)

/-- The given fields of a record, each at most once. -/
def fields? (names : List String) : Json → Option (List (String × Json))
  | .object members =>
      match namedMembers? members with
      | some members =>
          let known := members.filter fun entry => names.contains entry.1
          if (known.map Prod.fst).Nodup then some known else none
      | none => none
  | .array elements =>
      if elements.length ≤ names.length then some (names.zip elements) else none
  | _ => none

def choice? {α : Type} (place : Place) (choices : List (String × α)) : Json → Option α
  | .string (some name) => choices.lookup name
  | .object [(some name, .null)] => choices.lookup name
  | .object [(some name, .object [])] =>
      if place = .expression then choices.lookup name else none
  | _ => none

def text? : Json → Option String
  | .string contents => contents
  | _ => none

def boolean? : Json → Option Bool
  | .boolean value => some value
  | _ => none

def int32? : Json → Option Int32
  | .number literal =>
      match literal.value? with
      | some (.integer value) =>
          if Int32.minValue.toInt ≤ value ∧ value ≤ Int32.maxValue.toInt then
            some (Int32.ofInt value)
          else
            none
      | _ => none
  | _ => none

def nullable? {α : Type} (read : Json → Option α) : Json → Option (Option α)
  | .null => some none
  | value => (read value).map some

def required? {α : Type} (fields : List (String × Json)) (name : String)
    (read : Json → Option α) : Option α :=
  (fields.lookup name).bind read

def optional? {α : Type} (fields : List (String × Json)) (name : String) (default : α)
    (read : Json → Option α) : Option α :=
  match fields.lookup name with
  | some value => read value
  | none => some default

def kindNames : List (String × SqlKind) :=
  [("boolean", .boolean), ("small_int", .smallInt), ("int", .int), ("big_int", .bigInt),
    ("float", .float), ("double", .double), ("text", .text), ("timestamp", .timestamp),
    ("array", .array)]

def encodingNames : List (String × Encoding) :=
  [("none", .plain), ("dict", .dictionary)]

def typeFields : List String := ["kind", "subtype", "encoding", "comp_param", "nullable"]

def type? (place : Place) (value : Json) : Option SqlType := do
  let fields ← fields? typeFields value
  let kind ← required? fields "kind" (choice? place kindNames)
  let element ← optional? fields "subtype" none (nullable? (choice? place kindNames))
  let encoding ← optional? fields "encoding" .plain (choice? place encodingNames)
  let parameter ← optional? fields "comp_param" 0 int32?
  let nullable ← optional? fields "nullable" true boolean?
  return ⟨kind, element, encoding, parameter, nullable⟩

/-- The constant that a value is.  Integers of 64 bits stay integers; larger
numbers become doubles. -/
def literal? : Json → Option Literal
  | .null => some .null
  | .boolean value => some (.boolean value)
  | .number literal =>
      match literal.value? with
      | some (.integer value) =>
          if value ≤ Int64.maxValue.toInt then
            some (.integer (Int64.ofInt value))
          else
            some (.double (Float.ofNat value.toNat))
      | some (.double value) => some (.double value)
      | none => none
  | .string contents => contents.map .text
  | _ => none

/-- The three forms of an expression. -/
inductive Tag where
  | column
  | constant
  | call
deriving DecidableEq

def tagNames : List (String × Tag) :=
  [("column_var", .column), ("constant", .constant), ("function_oper", .call)]

def tag? (place : Place) : Json → Option Tag
  | .string (some name) => tagNames.lookup name
  | .number literal =>
      match place, literal.value? with
      | .expression, some (.integer value) =>
          if 0 ≤ value then (tagNames[value.toNat]?).map Prod.snd else none
      | _, _ => none
  | _ => none

/-- Split an expression into the value of its tag and the rest of its record. -/
def untag? : Json → Option (Json × Json)
  | .object members =>
      match members.filter fun entry => entry.1 == some "expr" with
      | [(_, tag)] =>
          some (tag, .object (members.filter fun entry => entry.1 != some "expr"))
      | _ => none
  | .array (tag :: elements) => some (tag, .array elements)
  | _ => none

def columnFields : List String := ["table", "column", "type_info"]

def constantFields : List String := ["value", "type_info"]

def callFields : List String := ["name", "type_info", "args"]

/-- The list that a value is, with every element read. -/
def list? {α : Type} (read : Json → Option α) : Json → Option (List α)
  | .array elements => elements.mapM read
  | _ => none

/-- The expression that a readable value is, with calls inside calls as deep as
the fuel lasts. -/
def expression? : Nat → Place → Json → Option Expression
  | 0, _, _ => none
  | fuel + 1, place, value =>
      match untag? value with
      | none => none
      | some (tag, record) =>
          match tag? place tag with
          | none => none
          | some .column => do
              let fields ← fields? columnFields record
              let table ← optional? fields "table" none (nullable? text?)
              let name ← required? fields "column" text?
              let type ← required? fields "type_info" (type? .expression)
              return .column table name type
          | some .constant => do
              let fields ← fields? constantFields record
              let value ← required? fields "value" literal?
              let type ← required? fields "type_info" (type? .expression)
              return .constant value type
          | some .call => do
              let fields ← fields? callFields record
              let name ← required? fields "name" text?
              let type ← required? fields "type_info" (type? .expression)
              let arguments ← optional? fields "args" []
                (list? (expression? fuel .expression))
              return .call name type arguments

/-- The expression that a value is when it may nest so many levels deep.  Every
call takes more than one level, so the levels are fuel enough. -/
def readableExpression? (levels : Nat) (value : Json) : Option Expression :=
  if value.isReadable levels then expression? (levels + 1) .document value else none

def planFields : List String := ["target_exprs"]

/-- The plan that a value is.  Its targets stand two levels deep. -/
def plan? (value : Json) : Option Plan := do
  let fields ← fields? planFields value
  let targets ← optional? fields "target_exprs" []
    (list? (readableExpression? (Json.nestingLimit - 2)))
  return ⟨targets⟩

/-- The name that stands for a choice. -/
def nameOf {α : Type} [DecidableEq α] (choices : List (String × α)) (choice : α) : Json :=
  .string ((choices.find? fun entry => entry.2 = choice).map Prod.fst)

def ofText (text : String) : Json := .string (some text)

/-- A type as a document.  The element kind is left out when there is none. -/
def ofType (type : SqlType) : Json :=
  .object
    ((some "kind", nameOf kindNames type.kind) ::
      ((match type.element with
        | some element => [(some "subtype", nameOf kindNames element)]
        | none => []) ++
      [(some "encoding", nameOf encodingNames type.encoding),
        (some "comp_param", .number (NumberLiteral.ofInt type.parameter.toInt)),
        (some "nullable", .boolean type.nullable)]))

/-- A constant as a document.  A double without a literal becomes null. -/
def ofLiteral : Literal → Json
  | .null => .null
  | .boolean value => .boolean value
  | .integer value => .number (NumberLiteral.ofInt value.toInt)
  | .double value =>
      match NumberLiteral.ofDouble? value with
      | some literal => .number literal
      | none => .null
  | .text value => ofText value

mutual

/-- An expression as a document.  The table is left out when there is none. -/
def ofExpression : Expression → Json
  | .column table name type =>
      .object
        ((some "expr", ofText "column_var") ::
          ((match table with
            | some table => [(some "table", ofText table)]
            | none => []) ++
          [(some "column", ofText name), (some "type_info", ofType type)]))
  | .constant value type =>
      .object [(some "expr", ofText "constant"), (some "value", ofLiteral value),
        (some "type_info", ofType type)]
  | .call name type arguments =>
      .object [(some "expr", ofText "function_oper"), (some "name", ofText name),
        (some "type_info", ofType type), (some "args", .array (ofExpressions arguments))]

def ofExpressions : List Expression → List Json
  | [] => []
  | expression :: expressions => ofExpression expression :: ofExpressions expressions

end

def ofPlan (plan : Plan) : Json :=
  .object [(some "target_exprs", .array (ofExpressions plan.targets))]

end PlanDocument

def SqlType.parse? (text : String) : Option SqlType :=
  (Json.parse? text).bind (PlanDocument.type? .document)

def Expression.parse? (text : String) : Option Expression :=
  (Json.parse? text).bind (PlanDocument.readableExpression? Json.nestingLimit)

/-- Read a plan from JSON text. -/
def Plan.parse? (text : String) : Option Plan :=
  (Json.parse? text).bind PlanDocument.plan?

/-- Print a plan as JSON text over several lines. -/
def Plan.pretty (plan : Plan) : String := (PlanDocument.ofPlan plan).pretty

end RowFunctions

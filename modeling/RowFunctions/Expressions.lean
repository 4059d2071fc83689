import RowFunctions.DoubleNumerals
import RowFunctions.SqlTypes

/-!
# Analyzed expressions and execution plans

An analyzed expression is a column, a constant or a function call, and carries
its type.  An execution plan is the list of target expressions that one unit of
work computes.  The call sites of a plan are the targets that are calls; calls
inside the arguments of another call do not count.
-/

namespace RowFunctions

/-- The value of a constant. -/
inductive Literal where
  | null
  | boolean (value : Bool)
  | integer (value : Int64)
  | double (value : Float)
  | text (value : String)

/-- The displayed form of a constant.  A quote inside text is written twice. -/
def Literal.display : Literal → String
  | null => "NULL"
  | boolean value => if value then "TRUE" else "FALSE"
  | integer value => String.ofList (Numeral.ofInt value.toInt)
  | double value => DoubleNumeral.plain value
  | text value =>
      let quote := Char.ofNat 39
      let doubled := value.toList.flatMap fun character =>
        if character = quote then [quote, quote] else [character]
      String.ofList (quote :: (doubled ++ [quote]))

/-- Whether two constants have equal values; doubles are compared as numbers, so
that the two zeros agree and an undefined number agrees with nothing. -/
def Literal.agrees : Literal → Literal → Bool
  | null, null => true
  | boolean first, boolean second => first == second
  | integer first, integer second => first == second
  | double first, double second => first == second
  | text first, text second => first == second
  | _, _ => false

/-- An analyzed, typed expression. -/
inductive Expression where
  | column (table : Option String) (name : String) (type : SqlType)
  | constant (value : Literal) (type : SqlType)
  | call (name : String) (type : SqlType) (arguments : List Expression)

/-- A function call with its declared name, result type and arguments. -/
structure FunctionCall where
  name : String
  type : SqlType
  arguments : List Expression

namespace Expression

def type : Expression → SqlType
  | column _ _ type => type
  | constant _ type => type
  | call _ type _ => type

/-- The function call that an expression is, if it is one. -/
def call? : Expression → Option FunctionCall
  | call name type arguments => some ⟨name, type, arguments⟩
  | _ => none

mutual

def display : Expression → String
  | column table name _ =>
      match table with
      | some table => table ++ "." ++ name
      | none => name
  | constant value _ => value.display
  | call name _ arguments => name ++ "(" ++ displayAll arguments ++ ")"

def displayAll : List Expression → String
  | [] => ""
  | expression :: expressions => display expression ++ displayMore expressions

def displayMore : List Expression → String
  | [] => ""
  | expression :: expressions =>
      ", " ++ display expression ++ displayMore expressions

end

mutual

/-- Whether two expressions are built alike from agreeing constants. -/
def agrees : Expression → Expression → Bool
  | column table name type, column table' name' type' =>
      table == table' && name == name' && type == type'
  | constant value type, constant value' type' => value.agrees value' && type == type'
  | call name type arguments, call name' type' arguments' =>
      name == name' && type == type' && agreesAll arguments arguments'
  | _, _ => false

def agreesAll : List Expression → List Expression → Bool
  | [], [] => true
  | expression :: expressions, expression' :: expressions' =>
      agrees expression expression' && agreesAll expressions expressions'
  | _, _ => false

end

end Expression

namespace FunctionCall

def arity (call : FunctionCall) : Nat := call.arguments.length

def display (call : FunctionCall) : String :=
  (Expression.call call.name call.type call.arguments).display

end FunctionCall

/-- The target expressions of one unit of work, in order. -/
structure Plan where
  targets : List Expression

namespace Plan

def append (plan : Plan) (target : Expression) : Plan := ⟨plan.targets ++ [target]⟩

def callSites (plan : Plan) : List (Nat × FunctionCall) :=
  plan.targets.zipIdx.filterMap fun entry => entry.1.call?.map fun call => (entry.2, call)

/-- Whether two plans have agreeing targets. -/
def agrees (plan plan' : Plan) : Bool := Expression.agreesAll plan.targets plan'.targets

end Plan

end RowFunctions

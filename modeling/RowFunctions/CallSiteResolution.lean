import RowFunctions.Expressions
import RowFunctions.NameKeys

/-!
# Resolving calls to dictionaries

Running code knows a function only by the name it was invoked under.  The call
sites of a plan are indexed by name key once; a resolution then finds the
dictionary behind one argument.  Among the call sites that share the key, in plan
order, the first whose argument is text stored in a dictionary decides.  Others
that disagree with it are reported as warnings.  If none qualifies, the error is
the one that the first call site raises.

A call site whose own name has no key is not indexed but remembered: a scan of
the plan would fail on it, so a resolution fails whenever it stands before the
first call site sought.
-/

namespace RowFunctions

/-- Why a call cannot be resolved. -/
inductive ResolutionError where
  | emptyFunctionName (name : String)
  | noMatchingCallSite (name : String) (key : NameKey)
  | argumentOutOfRange (function : String) (argument arity : Nat)
  | notDictionaryEncoded (function : String) (argument : Nat) (found : String)
deriving DecidableEq

def ResolutionError.message : ResolutionError → String
  | emptyFunctionName name =>
      "function name '" ++ name ++ "' is empty before its '__' suffix"
  | noMatchingCallSite name key =>
      "no analyzed call site matches function '" ++ name ++ "' (key '" ++ key.text ++ "')"
  | argumentOutOfRange function argument arity =>
      "argument " ++ toString argument ++ " is out of range for '" ++ function ++
        "' with " ++ toString arity ++ " arguments"
  | notDictionaryEncoded function argument found =>
      "argument " ++ toString argument ++ " of '" ++ function ++ "' has type " ++ found ++
        ", expected dictionary-encoded text"

/-- The key of a name, or the error of a name without key. -/
def NameKey.of (name : String) : Except ResolutionError NameKey :=
  match NameKey.of? name with
  | some key => .ok key
  | none => .error (.emptyFunctionName name)

/-- The name without its suffix, or the error of a name without key. -/
def NameKey.dropSuffix (name : String) : Except ResolutionError String :=
  match NameKey.dropSuffix? name with
  | some base => .ok base
  | none => .error (.emptyFunctionName name)

/-- Something noticed during a resolution that does not stop it. -/
inductive ResolutionWarning where
  | malformedCallSite (call : FunctionCall) (target : Nat) (error : ResolutionError)
  | ambiguous (name : String) (argument : Nat) (chosen : FunctionCall)
      (dictionary : DictionaryId) (other : FunctionCall) (otherDictionary : DictionaryId)

def ResolutionWarning.message : ResolutionWarning → String
  | malformedCallSite call target error =>
      "call site " ++ call.display ++ " at target " ++ toString target ++
        " is malformed: " ++ error.message
  | ambiguous name argument chosen dictionary other otherDictionary =>
      "'" ++ name ++ "' argument " ++ toString argument ++ " is ambiguous: " ++
        chosen.display ++ " binds dictionary " ++ Numeral.ofInt32 dictionary ++ ", " ++
        other.display ++ " binds " ++ Numeral.ofInt32 otherDictionary ++ "; using " ++
        Numeral.ofInt32 dictionary

/-- The dictionary behind one argument of a call. -/
def FunctionCall.argumentDictionary (call : FunctionCall) (argument : Nat) :
    Except ResolutionError DictionaryId :=
  match call.arguments[argument]? with
  | none => .error (.argumentOutOfRange call.name argument call.arity)
  | some expression =>
      match expression.type.dictionary? with
      | some dictionary => .ok dictionary
      | none => .error (.notDictionaryEncoded call.name argument expression.type.display)

/-- The call sites of a plan by name key.  Every key comes with the positions of
its call sites in plan order, and the first call site without key is kept with
its error. -/
structure CallSiteIndex where
  plan : Plan
  positions : List (NameKey × List Nat)
  malformed : Option (Nat × ResolutionError)

/-- The outcome of a resolution and what was noticed on the way. -/
structure Resolution where
  outcome : Except ResolutionError DictionaryId
  warnings : List ResolutionWarning

namespace CallSiteIndex

def addPosition (key : NameKey) (position : Nat) :
    List (NameKey × List Nat) → List (NameKey × List Nat)
  | [] => [(key, [position])]
  | (other, positions) :: entries =>
      if other = key then
        (other, positions ++ [position]) :: entries
      else
        (other, positions) :: addPosition key position entries

def addCallSite (index : CallSiteIndex) (site : Nat × FunctionCall) : CallSiteIndex :=
  match NameKey.of site.2.name with
  | .ok key => { index with positions := addPosition key site.1 index.positions }
  | .error error =>
      { index with malformed := index.malformed.or (some (site.1, error)) }

def ofPlan (plan : Plan) : CallSiteIndex :=
  plan.callSites.foldl addCallSite ⟨plan, [], none⟩

/-- The warnings raised while a plan is indexed: one for each call site without
key. -/
def buildWarnings (plan : Plan) : List ResolutionWarning :=
  plan.callSites.filterMap fun site =>
    match NameKey.of site.2.name with
    | .ok _ => none
    | .error error => some (.malformedCallSite site.2 site.1 error)

def size (index : CallSiteIndex) : Nat := index.positions.length

def isEmpty (index : CallSiteIndex) : Bool := index.positions.isEmpty

/-- The call sites with a key, in plan order with their positions. -/
def candidates (index : CallSiteIndex) (key : NameKey) : List (Nat × FunctionCall) :=
  ((index.positions.lookup key).getD []).filterMap fun position =>
    (index.plan.targets[position]?).bind fun target =>
      target.call?.map fun call => (position, call)

/-- The call sites with the key of a name, in plan order. -/
def callSites (index : CallSiteIndex) (name : String) :
    Except ResolutionError (List FunctionCall) :=
  match NameKey.of name with
  | .ok key => .ok ((index.candidates key).map Prod.snd)
  | .error error => .error error

/-- What is known after some candidates were considered. -/
structure Selection where
  chosen : Option (FunctionCall × DictionaryId)
  failure : Option ResolutionError
  warnings : List ResolutionWarning

/-- Consider one more candidate.  The first candidate that qualifies is chosen; a
later one that binds another dictionary only causes a warning.  Of the failures
before the choice the first is kept. -/
def Selection.consider (name : String) (argument : Nat) (selection : Selection)
    (call : FunctionCall) : Selection :=
  match call.argumentDictionary argument, selection.chosen with
  | .ok dictionary, none => { selection with chosen := some (call, dictionary) }
  | .ok dictionary, some (chosen, chosenDictionary) =>
      if chosenDictionary = dictionary then
        selection
      else
        { selection with
          warnings := selection.warnings ++
            [.ambiguous name argument chosen chosenDictionary call dictionary] }
  | .error error, none => { selection with failure := selection.failure.or (some error) }
  | .error _, some _ => selection

/-- Whether the remembered call site without key stands before all candidates. -/
def malformedFirst? (index : CallSiteIndex) (candidates : List (Nat × FunctionCall)) :
    Option ResolutionError :=
  match index.malformed, candidates with
  | none, _ => none
  | some (_, error), [] => some error
  | some (position, error), (first, _) :: _ => if position < first then some error else none

/-- Choose among the candidates for an invoked name. -/
def select (index : CallSiteIndex) (name : String) (key : NameKey) (argument : Nat)
    (candidates : List (Nat × FunctionCall)) : Resolution :=
  match index.malformedFirst? candidates with
  | some error => ⟨.error error, []⟩
  | none =>
      let selection := (candidates.map Prod.snd).foldl
        (Selection.consider name argument) ⟨none, none, []⟩
      match selection.chosen, selection.failure with
      | some (_, dictionary), _ => ⟨.ok dictionary, selection.warnings⟩
      | none, some error => ⟨.error error, selection.warnings⟩
      | none, none => ⟨.error (.noMatchingCallSite name key), selection.warnings⟩

/-- Resolve one argument of a function invoked by name.  With an arity only call
sites with exactly so many arguments are candidates. -/
def resolve (index : CallSiteIndex) (name : String) (arity : Option Nat) (argument : Nat) :
    Resolution :=
  match NameKey.of name with
  | .error error => ⟨.error error, []⟩
  | .ok key =>
      let candidates := match arity with
        | none => index.candidates key
        | some arity => (index.candidates key).filter fun site => site.2.arity == arity
      index.select name key argument candidates

end CallSiteIndex

end RowFunctions

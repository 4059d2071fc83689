import RowFunctions.ToolCommands

/-!
# Command-line arguments

The tool understands a tree of commands.  Every level of the tree has its own
options and positional arguments; some options are understood at all levels, and
the deepest level that has one decides.  Arguments are read from left to right.

An option may be followed by its value, or have it attached.  A value that
follows is only checked when the next argument has been recognized or the level
ends; this decides whether a request for help or a mistake is noticed first.
After two dashes everything is positional.  A text that looks like a negative
number is positional only where a number is expected next.
-/

namespace RowFunctions

/-- What the text of an argument has to be. -/
inductive ArgumentType where
  | text
  | path
  | natural
  | identifier
deriving DecidableEq

/-- What an argument was found to be. -/
inductive ArgumentValue where
  | present
  | text (value : String)
  | natural (value : Nat)
  | identifier (value : Int32)
deriving DecidableEq

def ArgumentType.read? : ArgumentType → String → Option ArgumentValue
  | text, value => some (.text value)
  | path, value => if value = "" then none else some (.text value)
  | natural, value => (Numeral.toNatBelow? UInt64.size value.toList).map .natural
  | identifier, value => (Numeral.toInt32? value.toList).map .identifier

/-- What an option does. -/
inductive OptionEffect where
  | takesValue (type : ArgumentType)
  | switches
  | counts
  | asksHelp
  | asksVersion
deriving DecidableEq

/-- An option, with its long name and the letter that abbreviates it. -/
structure OptionDescription where
  name : String
  letter : Option Char
  effect : OptionEffect
deriving DecidableEq

/-- A positional argument.  One that is repeated takes all that remain. -/
structure PositionalDescription where
  name : String
  type : ArgumentType
  allowsNegative : Bool
  isRequired : Bool
  isRepeated : Bool
deriving DecidableEq

/-- A command with its options, positional arguments and commands below it. -/
structure CommandDescription where
  name : String
  options : List OptionDescription
  positionals : List PositionalDescription
  commands : List CommandDescription

/-- Why arguments do not lead to a run of the tool: help or the version of a
command is asked for, or the arguments are wrong. -/
inductive ArgumentRefusal where
  | help (path : List String)
  | version (path : List String)
  | misuse
deriving DecidableEq

/-- The form of an argument, seen without regard to what is understood. -/
inductive ArgumentShape where
  | dashes
  | long (name : String) (attached : Option String)
  | letters (letters : List Char)
  | plain
deriving DecidableEq

def ArgumentShape.of : List Char → ArgumentShape
  | ['-', '-'] => dashes
  | '-' :: '-' :: rest =>
      let name := String.ofList (rest.takeWhile (· != '='))
      match rest.dropWhile (· != '=') with
      | _ :: value => long name (some (String.ofList value))
      | [] => long name none
  | '-' :: letter :: rest => letters (letter :: rest)
  | _ => plain

/-- Whether characters form a number: digits with at most one dot behind a first
digit and at most one exponent mark, which is not the last. -/
def isUnsignedNumber (seenDot : Bool) (seenMark : Bool) (isFirst : Bool) : List Char → Bool
  | [] => true
  | character :: rest =>
      if character.isDigit then
        isUnsignedNumber seenDot seenMark false rest
      else if character = '.' then
        !seenDot && !seenMark && !isFirst && isUnsignedNumber true seenMark false rest
      else if character = 'e' ∨ character = 'E' then
        !seenMark && !isFirst && !rest.isEmpty && isUnsignedNumber seenDot true false rest
      else
        false

/-- An argument that was recognized but whose texts have not been checked. -/
inductive PendingArgument where
  | option (name : String) (type : ArgumentType) (text : Option String)
  | positional (description : PositionalDescription) (texts : List String)

/-- What is known while the arguments of one level are read: the arguments found,
by name and in order, the one that is pending, the number of the positional
argument that comes next and whether two dashes were seen. -/
structure ArgumentLevel where
  found : List (String × ArgumentValue)
  pending : Option PendingArgument
  position : Nat
  onlyPositionals : Bool

namespace ArgumentLevel

def start : ArgumentLevel := ⟨[], none, 0, false⟩

def has (level : ArgumentLevel) (name : String) : Bool :=
  level.found.any fun entry => entry.1 == name

/-- Record an argument that may be found only once. -/
def addOnce (level : ArgumentLevel) (name : String) (value : ArgumentValue) :
    Except ArgumentRefusal ArgumentLevel :=
  if level.has name then .error .misuse
  else .ok { level with found := level.found ++ [(name, value)] }

def addValue (level : ArgumentLevel) (name : String) (type : ArgumentType) (text : String) :
    Except ArgumentRefusal ArgumentLevel :=
  match type.read? text with
  | some value => level.addOnce name value
  | none => .error .misuse

/-- The values that texts denote, if all of them denote one. -/
def readAll? (type : ArgumentType) (texts : List String) : Option (List ArgumentValue) :=
  texts.mapM type.read?

def settle (level : ArgumentLevel) : Except ArgumentRefusal ArgumentLevel :=
  let settled := { level with pending := none }
  match level.pending with
  | none => .ok settled
  | some (.option _ _ none) => .error .misuse
  | some (.option name type (some text)) => settled.addValue name type text
  | some (.positional description texts) =>
      match readAll? description.type texts with
      | none => .error .misuse
      | some values =>
          .ok { settled with
            found := level.found ++ values.map fun value => (description.name, value) }

/-- Whether the pending argument is an option that still waits for its value. -/
def awaitsValue (level : ArgumentLevel) : Bool :=
  match level.pending with
  | some (.option _ _ none) => true
  | _ => false

/-- Let the pending option take a text as its value. -/
def takeValue (level : ArgumentLevel) (text : String) : ArgumentLevel :=
  match level.pending with
  | some (.option name type _) => { level with pending := some (.option name type (some text)) }
  | _ => level

/-- Take a text as the next positional argument of a command. -/
def takePositional (level : ArgumentLevel) (command : CommandDescription) (text : String) :
    Except ArgumentRefusal ArgumentLevel :=
  match command.positionals[level.position]? with
  | none => .error .misuse
  | some description =>
      let next := if description.isRepeated then level.position else level.position + 1
      match level.pending with
      | some (.positional pending texts) =>
          if pending = description then
            .ok { level with pending := some (.positional pending (texts ++ [text])) }
          else do
            let level ← level.settle
            return { level with
              pending := some (.positional description [text]), position := next }
      | _ => do
          let level ← level.settle
          return { level with
            pending := some (.positional description [text]), position := next }

/-- Carry out an option that takes no value. -/
def carryOut (level : ArgumentLevel) (path : List String) (option : OptionDescription) :
    Except ArgumentRefusal ArgumentLevel := do
  let level ← level.settle
  match option.effect with
  | .takesValue _ => .error .misuse
  | .switches => level.addOnce option.name .present
  | .counts => return { level with found := level.found ++ [(option.name, .present)] }
  | .asksHelp => .error (.help path)
  | .asksVersion => .error (.version path)

/-- Read an option that takes a value, given the text attached to it. -/
def openOption (level : ArgumentLevel) (name : String) (type : ArgumentType)
    (attached : Option String) : Except ArgumentRefusal ArgumentLevel := do
  let level ← level.settle
  match attached with
  | some text => level.addValue name type text
  | none => return { level with pending := some (.option name type none) }

def takeLong (level : ArgumentLevel) (command : CommandDescription) (path : List String)
    (name : String) (attached : Option String) : Except ArgumentRefusal ArgumentLevel :=
  match command.options.find? fun option => option.name == name with
  | none => .error .misuse
  | some option =>
      match option.effect, attached with
      | .takesValue type, attached => level.openOption option.name type attached
      | _, some _ => .error .misuse
      | _, none => level.carryOut path option

/-- The text attached to an option letter; an equals sign before it is left out. -/
def attachedText? : List Char → Option String
  | [] => none
  | '=' :: rest => some (String.ofList rest)
  | rest => some (String.ofList rest)

def takeLetters (level : ArgumentLevel) (command : CommandDescription) (path : List String) :
    List Char → Except ArgumentRefusal ArgumentLevel
  | [] => .ok level
  | letter :: rest =>
      match command.options.find? fun option => option.letter == some letter with
      | none => .error .misuse
      | some option =>
          match option.effect with
          | .takesValue type => level.openOption option.name type (attachedText? rest)
          | _ =>
              match level.carryOut path option with
              | .ok level => level.takeLetters command path rest
              | .error refusal => .error refusal

/-- Whether the next positional argument of a command may be negative. -/
def expectsNumber (level : ArgumentLevel) (command : CommandDescription) : Bool :=
  match command.positionals[level.position]? with
  | some description => description.allowsNegative
  | none => false

def takeText (level : ArgumentLevel) (command : CommandDescription) (text : String) :
    Except ArgumentRefusal ArgumentLevel :=
  if level.awaitsValue then .ok (level.takeValue text) else level.takePositional command text

/-- Read the next argument, which is not the name of a command. -/
def take (level : ArgumentLevel) (command : CommandDescription) (path : List String)
    (text : String) : Except ArgumentRefusal ArgumentLevel :=
  if level.onlyPositionals then
    level.takePositional command text
  else
    match ArgumentShape.of text.toList with
    | .dashes => .ok { level with onlyPositionals := true }
    | .long name attached => level.takeLong command path name attached
    | .letters letters =>
        if level.expectsNumber command ∧ isUnsignedNumber false false true letters then
          level.takeText command text
        else
          level.takeLetters command path letters
    | .plain => level.takeText command text

/-- Check a level at its end: nothing required may be missing. -/
def finish (level : ArgumentLevel) (command : CommandDescription) :
    Except ArgumentRefusal (List (String × ArgumentValue)) := do
  let level ← level.settle
  if command.positionals.all fun description =>
      !description.isRequired || level.has description.name then
    return level.found
  else
    .error .misuse

end ArgumentLevel

namespace CommandDescription

def command? (command : CommandDescription) (name : String) : Option CommandDescription :=
  command.commands.find? fun below => below.name == name

/-- The name that asks for help on the commands below, wherever there are any. -/
def helpName : String := "help"

def followHelp (command : CommandDescription) (path : List String) :
    List String → ArgumentRefusal
  | [] => .help path
  | name :: names =>
      match command.command? name with
      | some below => below.followHelp (path ++ [name]) names
      | none =>
          if name = helpName ∧ !command.commands.isEmpty ∧ names.isEmpty then .help path
          else .misuse

/-- Read arguments from a level on.  The answer has what was found at this level
and those below. -/
def readFrom (command : CommandDescription) (path : List String) (level : ArgumentLevel) :
    List String → Except ArgumentRefusal (List (String × List (String × ArgumentValue)))
  | [] =>
      if command.commands.isEmpty then do
        return [(command.name, ← level.finish command)]
      else
        .error .misuse
  | text :: texts =>
      if level.onlyPositionals ∨ level.awaitsValue then
        match level.take command path text with
        | .ok level => command.readFrom path level texts
        | .error refusal => .error refusal
      else
        match command.command? text with
        | some below => do
            let levels ← below.readFrom (path ++ [text]) .start texts
            return (command.name, ← level.finish command) :: levels
        | none =>
            if text = helpName ∧ !command.commands.isEmpty then
              .error (command.followHelp path texts)
            else
              match level.take command path text with
              | .ok level => command.readFrom path level texts
              | .error refusal => .error refusal

end CommandDescription

end RowFunctions

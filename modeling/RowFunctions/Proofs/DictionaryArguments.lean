import RowFunctions.Proofs.DecimalDigits
import RowFunctions.ProgramRuns

/-!
# Arguments of the commands on dictionaries

The commands that decode and intern take the number of a dictionary and then any
number of words.  A word is taken for what it is, whatever it looks like, if it
is the numeral of an integer where numbers are expected or if two dashes stand
before it.  The numerals are read back as the integers they were written for, so
the command line that names a dictionary and some words is understood as exactly
that, after the options that name the documents of a run.  Arguments that are
understood as a command never ask for the details of the build.
-/

namespace RowFunctions

namespace Digit

theorem toChar_ne {digit : Digit} {character : Char} (noDigit : ofChar? character = none) :
    digit.toChar ≠ character := by
  rintro rfl
  simp at noDigit

theorem isDigit_toChar (digit : Digit) : digit.toChar.isDigit = true := by
  revert digit
  decide

end Digit

namespace Numeral

theorem toNat?_ofNat (number : Nat) : toNat? (ofNat number) = some number := by
  have ends : Digit.EndsDigits [] := by simp [Digit.EndsDigits]
  have read := Digit.span_map_toChar (Digit.ofNat number) ends
  rw [List.append_nil] at read
  have denoted := Digit.value_ofNat number
  obtain ⟨digit, digits, written⟩ := List.exists_cons_of_ne_nil (Digit.ofNat_ne_nil number)
  rw [toNat?, ofNat, read]
  rw [written] at denoted ⊢
  exact congrArg some denoted

theorem exists_ofNat_eq_cons (number : Nat) :
    ∃ (digit : Digit) (digits : List Digit),
      ofNat number = digit.toChar :: digits.map Digit.toChar := by
  obtain ⟨digit, digits, written⟩ := List.exists_cons_of_ne_nil (Digit.ofNat_ne_nil number)
  exact ⟨digit, digits, by rw [ofNat, written, List.map_cons]⟩

/-- An integer is read back from its numeral. -/
theorem toInt?_ofInt (number : Int) : toInt? (ofInt number) = some number := by
  cases number with
  | ofNat number =>
      have read := toNat?_ofNat number
      obtain ⟨digit, digits, written⟩ := exists_ofNat_eq_cons number
      have noPlus : digit.toChar ≠ '+' := Digit.toChar_ne (by decide)
      have noMinus : digit.toChar ≠ '-' := Digit.toChar_ne (by decide)
      rw [ofInt]
      rw [written] at read ⊢
      unfold toInt?
      split
      · next same => exact absurd (List.cons.inj same).1 noPlus
      · next same => exact absurd (List.cons.inj same).1 noMinus
      · rw [read]
        rfl
  | negSucc number =>
      rw [ofInt, toInt?, toNat?_ofNat]
      rfl

theorem toInt32?_ofInt32 (word : Int32) : toInt32? (ofInt32 word).toList = some word := by
  have smallest : Int32.minValue.toInt = -2 ^ 31 := by decide
  have largest : Int32.maxValue.toInt = 2 ^ 31 - 1 := by decide
  have above := word.le_toInt
  have below := word.toInt_lt
  rw [toInt32?, ofInt32, String.toList_ofList, toInt?_ofInt]
  simp only
  rw [if_pos (by omega), Int32.ofInt_toInt]

end Numeral

/-! ### The form of arguments -/

/-- The argument that gives a long option its value. -/
def attachedOption (name value : String) : String := "--" ++ name ++ "=" ++ value

theorem isUnsignedNumber_map_toChar (digits : List Digit) (isFirst : Bool) :
    isUnsignedNumber false false isFirst (digits.map Digit.toChar) = true := by
  induction digits generalizing isFirst with
  | nil => rfl
  | cons digit digits ih =>
      rw [List.map_cons, isUnsignedNumber, if_pos digit.isDigit_toChar]
      exact ih false

namespace ArgumentShape

theorem of_ofNat (number : Nat) : of (Numeral.ofNat number) = plain := by
  obtain ⟨digit, digits, written⟩ := Numeral.exists_ofNat_eq_cons number
  have noMinus : digit.toChar ≠ '-' := Digit.toChar_ne (by decide)
  rw [written]
  unfold of
  split
  · next same => exact absurd (List.cons.inj same).1 noMinus
  · next same => exact absurd (List.cons.inj same).1 noMinus
  · next same => exact absurd (List.cons.inj same).1 noMinus
  · rfl

theorem of_minus_ofNat (number : Nat) :
    of ('-' :: Numeral.ofNat number) = letters (Numeral.ofNat number) := by
  obtain ⟨digit, digits, written⟩ := Numeral.exists_ofNat_eq_cons number
  have noMinus : digit.toChar ≠ '-' := Digit.toChar_ne (by decide)
  rw [written]
  unfold of
  split
  · next same => exact absurd (List.cons.inj (List.cons.inj same).2).1 noMinus
  · next same => exact absurd (List.cons.inj (List.cons.inj same).2).1 noMinus
  · next same => rw [(List.cons.inj same).2]
  · next other => exact absurd rfl (other _ _)

/-- The numeral of an integer looks like a plain text or like a negative number. -/
theorem of_ofInt32 (word : Int32) :
    of (Numeral.ofInt32 word).toList = plain ∨
      ∃ digits, of (Numeral.ofInt32 word).toList = letters digits ∧
        isUnsignedNumber false false true digits = true := by
  rw [Numeral.ofInt32, String.toList_ofList]
  cases word.toInt with
  | ofNat number => exact .inl (of_ofNat number)
  | negSucc number =>
      exact .inr ⟨_, of_minus_ofNat (number + 1), isUnsignedNumber_map_toChar _ true⟩

/-- A long option with its value attached behind an equals sign. -/
theorem of_attachedOption {name : String} (noEquals : '=' ∉ name.toList) (value : String) :
    of (attachedOption name value).toList = long name (some value) := by
  have passes : ∀ character ∈ name.toList, (character != '=') = true := by
    intro character member
    rw [bne_iff_ne]
    rintro rfl
    exact noEquals member
  have before : (name.toList ++ '=' :: value.toList).takeWhile (· != '=') = name.toList := by
    rw [List.takeWhile_append_of_pos passes]
    simp
  have behind : (name.toList ++ '=' :: value.toList).dropWhile (· != '=') =
      '=' :: value.toList := by
    rw [List.dropWhile_append_of_pos passes]
    simp
  have written : (attachedOption name value).toList =
      '-' :: '-' :: (name.toList ++ '=' :: value.toList) := by
    simp [attachedOption]
  have notEmpty : name.toList ++ '=' :: value.toList ≠ [] := by simp
  rw [written]
  generalize name.toList ++ '=' :: value.toList = text at before behind notEmpty ⊢
  cases text with
  | nil => contradiction
  | cons first rest =>
      simp only [of]
      rw [before, behind]
      simp

end ArgumentShape

/-- A text that is taken for a word of a positional argument, whatever the text
looks like. -/
def PositionalDescription.Takes (description : PositionalDescription) (behindDashes : Bool)
    (text : String) : Prop :=
  behindDashes = true ∨ description.allowsNegative = true ∧ ∃ word, text = Numeral.ofInt32 word

namespace ArgumentLevel

/-- Texts are read if each of them was written for a value. -/
theorem readAll?_map {α : Type} {type : ArgumentType} {write : α → String}
    {value : α → ArgumentValue} (reads : ∀ item, type.read? (write item) = some (value item))
    (items : List α) : readAll? type (items.map write) = some (items.map value) := by
  unfold readAll?
  induction items with
  | nil => rfl
  | cons item items ih => simp [reads item, ih]

theorem settle_positional {description : PositionalDescription} {texts : List String}
    {values : List ArgumentValue} (denoted : readAll? description.type texts = some values)
    (found : List (String × ArgumentValue)) (position : Nat) (behindDashes : Bool) :
    settle ⟨found, some (.positional description texts), position, behindDashes⟩ =
      .ok ⟨found ++ values.map fun value => (description.name, value), none, position,
        behindDashes⟩ := by
  simp [settle, denoted]

theorem finish_of_settle {level settled : ArgumentLevel} {command : CommandDescription}
    (ends : level.settle = .ok settled)
    (complete : ∀ description ∈ command.positionals, settled.has description.name = true) :
    level.finish command = .ok settled.found := by
  have all : (command.positionals.all fun description =>
      !description.isRequired || settled.has description.name) = true := by
    rw [List.all_eq_true]
    intro description member
    rw [complete description member, Bool.or_true]
  unfold finish
  rw [ends]
  exact if_pos all

/-- The first word of a positional argument ends what is pending. -/
theorem takePositional_first {level settled : ArgumentLevel} {command : CommandDescription}
    {description : PositionalDescription}
    (next : command.positionals[level.position]? = some description)
    (first : ∀ texts, level.pending ≠ some (.positional description texts))
    (ends : level.settle = .ok settled) (text : String) :
    level.takePositional command text =
      .ok { settled with
        pending := some (.positional description [text])
        position := if description.isRepeated then level.position else level.position + 1 } := by
  unfold takePositional
  rw [next]
  simp only
  split
  · next pending texts same =>
      have different : pending ≠ description := by
        rintro rfl
        exact first texts same
      rw [if_neg different, ends]
      rfl
  · rw [ends]
    rfl

theorem take_word {level : ArgumentLevel} {command : CommandDescription}
    {description : PositionalDescription} {text : String}
    (next : command.positionals[level.position]? = some description)
    (word : description.Takes level.onlyPositionals text) (settled : level.awaitsValue = false)
    (path : List String) : level.take command path text = level.takePositional command text := by
  have taken : level.takeText command text = level.takePositional command text := by
    rw [takeText, settled]
    rfl
  unfold take
  cases behindDashes : level.onlyPositionals with
  | true => rfl
  | false =>
      obtain ⟨negative, integer, rfl⟩ := word.resolve_left (by simp [behindDashes])
      have expected : level.expectsNumber command = true := by
        rw [expectsNumber, next]
        exact negative
      rcases ArgumentShape.of_ofInt32 integer with shape | ⟨digits, shape, unsigned⟩
      · simp [shape, taken]
      · simp [shape, expected, unsigned, taken]

end ArgumentLevel

namespace CommandDescription

/-- An argument that is not the name of a command below is read at this level. -/
theorem readFrom_cons {command : CommandDescription} {text : String}
    (noCommand : command.command? text = none)
    (noHelp : text ≠ helpName ∨ command.commands.isEmpty = true) (path : List String)
    (level : ArgumentLevel) (texts : List String) :
    command.readFrom path level (text :: texts) =
      match level.take command path text with
      | .ok level => command.readFrom path level texts
      | .error refusal => .error refusal := by
  rw [readFrom]
  split
  · rfl
  · have unhelpful : ¬ (text = helpName ∧ (!command.commands.isEmpty) = true) := by
      rintro ⟨help, below⟩
      rcases noHelp with different | leaf
      · exact different help
      · simp [leaf] at below
    rw [noCommand]
    exact if_neg unhelpful

/-- The words of a repeated argument pile up behind those that are pending. -/
theorem readFrom_words {command : CommandDescription} (leaf : command.commands = [])
    {description : PositionalDescription} {level : ArgumentLevel} {texts : List String}
    (pending : level.pending = some (.positional description texts))
    (next : command.positionals[level.position]? = some description) {more : List String}
    (words : ∀ text ∈ more, description.Takes level.onlyPositionals text)
    (path : List String) :
    command.readFrom path level more =
      command.readFrom path
        { level with pending := some (.positional description (texts ++ more)) } [] := by
  induction more generalizing level texts with
  | nil =>
      rw [List.append_nil, ← pending]
  | cons text more ih =>
      have settled : level.awaitsValue = false := by rw [ArgumentLevel.awaitsValue, pending]
      have taken : level.take command path text =
          .ok { level with pending := some (.positional description (texts ++ [text])) } := by
        rw [ArgumentLevel.take_word next (words text List.mem_cons_self) settled]
        simp [ArgumentLevel.takePositional, next, pending]
      have others : ∀ other ∈ more, description.Takes level.onlyPositionals other :=
        fun other member => words other (List.mem_cons_of_mem text member)
      have rest := @ih { level with pending := some (.positional description (texts ++ [text])) }
        (texts ++ [text]) rfl next others
      rw [readFrom_cons (by simp [command?, leaf]) (.inr (by simp [leaf])), taken]
      simp only [rest, List.append_assoc, List.singleton_append]

end CommandDescription

namespace ToolInvocation

theorem read?_ofInt32 (word : Int32) :
    ArgumentType.identifier.read? (Numeral.ofInt32 word) = some (.identifier word) := by
  rw [ArgumentType.read?, Numeral.toInt32?_ofInt32]
  rfl

/-- The positional argument that names a dictionary. -/
def dictionaryNumber : PositionalDescription := single "dict_id" .identifier true

/-- After the number of a dictionary, everything that is taken for a word is found
as one. -/
theorem readFrom_dictionaryWords {command : CommandDescription} (leaf : command.commands = [])
    {description : PositionalDescription}
    (positionals : command.positionals = [dictionaryNumber, description])
    (repeated : description.isRepeated = true) (different : description ≠ dictionaryNumber)
    (dictionary : DictionaryId) {behindDashes : Bool} {texts : List String}
    (notEmpty : texts ≠ []) (words : ∀ text ∈ texts, description.Takes behindDashes text)
    {values : List ArgumentValue}
    (denoted : ArgumentLevel.readAll? description.type texts = some values) (path : List String) :
    command.readFrom path
        ⟨[], some (.positional dictionaryNumber [Numeral.ofInt32 dictionary]), 1, behindDashes⟩
        texts =
      .ok [(command.name, ("dict_id", .identifier dictionary) ::
        values.map fun value => (description.name, value))] := by
  obtain ⟨text, more, rfl⟩ := List.exists_cons_of_ne_nil notEmpty
  have number : ArgumentLevel.readAll? dictionaryNumber.type [Numeral.ofInt32 dictionary] =
      some [.identifier dictionary] :=
    ArgumentLevel.readAll?_map read?_ofInt32 [dictionary]
  have next : command.positionals[1]? = some description := by simp [positionals]
  -- The first word ends the number before it; the others pile up behind the first.
  have first : ArgumentLevel.take
      ⟨[], some (.positional dictionaryNumber [Numeral.ofInt32 dictionary]), 1, behindDashes⟩
        command path text =
      .ok ⟨[("dict_id", .identifier dictionary)], some (.positional description [text]), 1,
        behindDashes⟩ := by
    rw [ArgumentLevel.take_word next (words text List.mem_cons_self) rfl,
      ArgumentLevel.takePositional_first next (by simp [different.symm])
        (ArgumentLevel.settle_positional number [] 1 behindDashes), repeated]
    rfl
  have found : ArgumentLevel.finish
      ⟨[("dict_id", .identifier dictionary)], some (.positional description (text :: more)), 1,
        behindDashes⟩ command =
      .ok (("dict_id", .identifier dictionary) ::
        values.map fun value => (description.name, value)) := by
    have present : values ≠ [] := by
      rintro rfl
      simp [ArgumentLevel.readAll?, Option.bind_eq_some_iff] at denoted
    obtain ⟨value, others, rfl⟩ := List.exists_cons_of_ne_nil present
    exact ArgumentLevel.finish_of_settle (ArgumentLevel.settle_positional denoted _ _ _)
      (by simp [positionals, ArgumentLevel.has, dictionaryNumber, single])
  rw [CommandDescription.readFrom_cons (by simp [CommandDescription.command?, leaf])
    (.inr (by simp [leaf])), first]
  simp only
  rw [CommandDescription.readFrom_words leaf rfl next
    fun other member => words other (List.mem_cons_of_mem text member)]
  simp only [List.singleton_append, CommandDescription.readFrom, leaf, found]
  rfl

theorem take_dictionaryNumber {command : CommandDescription} {others : List PositionalDescription}
    (positionals : command.positionals = dictionaryNumber :: others) (dictionary : DictionaryId)
    (path : List String) :
    ArgumentLevel.start.take command path (Numeral.ofInt32 dictionary) =
      .ok ⟨[], some (.positional dictionaryNumber [Numeral.ofInt32 dictionary]), 1, false⟩ := by
  have next : command.positionals[ArgumentLevel.start.position]? = some dictionaryNumber := by
    simp [positionals, ArgumentLevel.start]
  have word : dictionaryNumber.Takes ArgumentLevel.start.onlyPositionals
      (Numeral.ofInt32 dictionary) := .inr ⟨rfl, dictionary, rfl⟩
  have idle : ArgumentLevel.start.settle = .ok .start := rfl
  rw [ArgumentLevel.take_word next word rfl,
    ArgumentLevel.takePositional_first next (by simp [ArgumentLevel.start]) idle]
  rfl

/-- The numbers behind the number of a dictionary are read, negative ones too. -/
theorem readFrom_decode (dictionary : DictionaryId) {ids : List StringId} (notEmpty : ids ≠ [])
    (path : List String) :
    decodeDescription.readFrom path .start
        (Numeral.ofInt32 dictionary :: ids.map Numeral.ofInt32) =
      .ok [("decode", ("dict_id", .identifier dictionary) ::
        ids.map fun id => ("ids", .identifier id))] := by
  have words : ∀ text ∈ ids.map Numeral.ofInt32,
      (several "ids" .identifier true).Takes false text := by
    intro text member
    obtain ⟨id, -, rfl⟩ := List.mem_map.mp member
    exact .inr ⟨rfl, id, rfl⟩
  have denoted : ArgumentLevel.readAll? .identifier (ids.map Numeral.ofInt32) =
      some (ids.map .identifier) :=
    ArgumentLevel.readAll?_map read?_ofInt32 ids
  rw [CommandDescription.readFrom_cons rfl (.inr rfl), take_dictionaryNumber rfl]
  simp only
  rw [readFrom_dictionaryWords rfl rfl rfl (by decide) dictionary (by simpa using notEmpty) words
    denoted]
  simp [decodeDescription, several]

/-- Behind two dashes every text is a value, whatever it looks like. -/
theorem readFrom_intern (dictionary : DictionaryId) {values : List String}
    (notEmpty : values ≠ []) (path : List String) :
    internDescription.readFrom path .start (Numeral.ofInt32 dictionary :: "--" :: values) =
      .ok [("intern", ("dict_id", .identifier dictionary) ::
        values.map fun value => ("values", .text value))] := by
  have denoted : ArgumentLevel.readAll? .text (values.map id) = some (values.map .text) :=
    ArgumentLevel.readAll?_map (fun _ => rfl) values
  rw [List.map_id] at denoted
  have dashes : ArgumentLevel.take
      ⟨[], some (.positional dictionaryNumber [Numeral.ofInt32 dictionary]), 1, false⟩
        internDescription path "--" =
      .ok ⟨[], some (.positional dictionaryNumber [Numeral.ofInt32 dictionary]), 1, true⟩ := rfl
  rw [CommandDescription.readFrom_cons rfl (.inr rfl), take_dictionaryNumber rfl]
  simp only
  rw [CommandDescription.readFrom_cons rfl (.inr rfl), dashes]
  simp only
  rw [readFrom_dictionaryWords rfl rfl rfl (by decide) dictionary notEmpty
    (fun _ _ => .inl rfl) denoted]
  simp [internDescription, several]

/-! ### Options before the command -/

theorem attachedOption_ne {other : String} (noEquals : '=' ∉ other.toList) (name value : String) :
    attachedOption name value ≠ other := by
  rintro rfl
  simp [attachedOption] at noEquals

theorem readFrom_attachedPath {name : String} {letter : Char}
    (known : description.options.find? (fun option => option.name == name) =
      some (valued name letter .path))
    (noEquals : '=' ∉ name.toList) {value : String} (notEmpty : value ≠ "")
    {found : List (String × ArgumentValue)}
    (fresh : (found.any fun entry => entry.1 == name) = false) (path rest : List String) :
    description.readFrom path ⟨found, none, 0, false⟩ (attachedOption name value :: rest) =
      description.readFrom path ⟨found ++ [(name, .text value)], none, 0, false⟩ rest := by
  have noCommand : description.command? (attachedOption name value) = none := by
    have noEquals : ∀ below ∈ description.commands, '=' ∉ below.name.toList := by decide
    rw [CommandDescription.command?, List.find?_eq_none]
    intro below member
    rw [beq_iff_eq]
    exact (attachedOption_ne (noEquals below member) name value).symm
  have noHelp : attachedOption name value ≠ CommandDescription.helpName :=
    attachedOption_ne (by decide) name value
  have taken : ArgumentLevel.take ⟨found, none, 0, false⟩ description path
      (attachedOption name value) = .ok ⟨found ++ [(name, .text value)], none, 0, false⟩ := by
    have shape := ArgumentShape.of_attachedOption noEquals value
    have opened : ArgumentLevel.openOption ⟨found, none, 0, false⟩ name .path (some value) =
        .ok ⟨found ++ [(name, .text value)], none, 0, false⟩ := by
      have read : ArgumentType.path.read? value = some (.text value) := if_neg notEmpty
      change ArgumentLevel.addValue ⟨found, none, 0, false⟩ name .path value = _
      rw [ArgumentLevel.addValue, read]
      simp only [ArgumentLevel.addOnce, ArgumentLevel.has, fresh]
      rfl
    simp only [ArgumentLevel.take, shape, ArgumentLevel.takeLong, known]
    exact opened
  rw [CommandDescription.readFrom_cons noCommand (.inl noHelp), taken]

end ToolInvocation

/-- The options that name the documents of a run. -/
structure DocumentOptions where
  settingsFile : Option String
  dictionaries : Option String
  settingsFile_ne : settingsFile ≠ some ""
  dictionaries_ne : dictionaries ≠ some ""

namespace DocumentOptions

open ToolInvocation

def arguments (options : DocumentOptions) : List String :=
  (options.settingsFile.map (attachedOption "config")).toList ++
    (options.dictionaries.map (attachedOption "dictionaries")).toList

/-- What is found at the level of the options. -/
def found (options : DocumentOptions) : List (String × ArgumentValue) :=
  (options.settingsFile.map fun path => ("config", .text path)).toList ++
    (options.dictionaries.map fun path => ("dictionaries", .text path)).toList

def invocation (options : DocumentOptions) (command : ToolCommand) : Invocation :=
  ⟨options.settingsFile, options.dictionaries, 0, command⟩

theorem readFrom_arguments (options : DocumentOptions) (path rest : List String) :
    description.readFrom path .start (options.arguments ++ rest) =
      description.readFrom path ⟨options.found, none, 0, false⟩ rest := by
  obtain ⟨settingsFile, dictionaries, settingsFile_ne, dictionaries_ne⟩ := options
  have first : description.readFrom path .start
      ((settingsFile.map (attachedOption "config")).toList ++
        ((dictionaries.map (attachedOption "dictionaries")).toList ++ rest)) =
      description.readFrom path
        ⟨(settingsFile.map fun path => ("config", .text path)).toList, none, 0, false⟩
        ((dictionaries.map (attachedOption "dictionaries")).toList ++ rest) := by
    cases settingsFile with
    | none => rfl
    | some value =>
        exact readFrom_attachedPath rfl (by decide) (by simpa using settingsFile_ne) rfl path _
  rw [arguments, List.append_assoc, first, found]
  cases dictionaries with
  | none => simp
  | some value =>
      refine readFrom_attachedPath rfl (by decide) (by simpa using dictionaries_ne) ?_ path rest
      cases settingsFile <;> rfl

theorem text?_found (options : DocumentOptions) :
    text? options.found "config" = options.settingsFile ∧
      text? options.found "dictionaries" = options.dictionaries ∧
      has options.found "verbose" = false := by
  obtain ⟨settingsFile, dictionaries, -, -⟩ := options
  cases settingsFile <;> cases dictionaries <;> simp [found, text?, has, List.lookup]

/-- A command after the options is understood on its own. -/
theorem parse_arguments (options : DocumentOptions) {name : String} {below : CommandDescription}
    (named : description.command? name = some below) {rest : List String}
    {found : List (String × ArgumentValue)}
    (read : below.readFrom [description.name, name] .start rest = .ok [(name, found)])
    (noOptions : ∀ option ∈ ["config", "dictionaries", "verbose"], found.lookup option = none)
    {command : ToolCommand} (means : command? [name] found = some command) :
    Invocation.parse (options.arguments ++ name :: rest) = .ok (options.invocation command) := by
  have root : ArgumentLevel.finish ⟨options.found, none, 0, false⟩ description =
      .ok options.found := by
    have idle : ArgumentLevel.settle ⟨options.found, none, 0, false⟩ =
        .ok ⟨options.found, none, 0, false⟩ := rfl
    exact ArgumentLevel.finish_of_settle idle fun _ member => absurd member List.not_mem_nil
  have levels : description.readFrom [description.name] .start (options.arguments ++ name :: rest) =
      .ok [(description.name, options.found), (name, found)] := by
    rw [readFrom_arguments, CommandDescription.readFrom]
    simp [ArgumentLevel.awaitsValue, named, read, root]
    rfl
  obtain ⟨config, dictionaries, verbose⟩ := options.text?_found
  have understood : ofFound? [(description.name, options.found), (name, found)] =
      some (options.invocation command) := by
    have noConfig : text? found "config" = none := by
      rw [text?, noOptions "config" (by simp)]
    have noDictionaries : text? found "dictionaries" = none := by
      rw [text?, noOptions "dictionaries" (by simp)]
    have noVerbose : has found "verbose" = false := by
      rw [has, noOptions "verbose" (by simp)]
      rfl
    simp [ofFound?, means, sharedText?, sharedCount, noConfig, noDictionaries, noVerbose, config,
      dictionaries, verbose, invocation]
  rw [Invocation.parse, levels]
  simp only [understood]

theorem parse_decode (options : DocumentOptions) (dictionary : DictionaryId)
    {ids : List StringId} (notEmpty : ids ≠ []) :
    Invocation.parse (options.arguments ++
        "decode" :: Numeral.ofInt32 dictionary :: ids.map Numeral.ofInt32) =
      .ok (options.invocation (.decode dictionary ids)) := by
  refine options.parse_arguments rfl (readFrom_decode dictionary notEmpty _) ?_ ?_
  · simp [List.lookup_eq_none_iff]
  · simp [command?, identifier?, identifiers, List.lookup, List.filterMap_map]

theorem parse_intern (options : DocumentOptions) (dictionary : DictionaryId)
    {values : List String} (notEmpty : values ≠ []) :
    Invocation.parse (options.arguments ++
        "intern" :: Numeral.ofInt32 dictionary :: "--" :: values) =
      .ok (options.invocation (.intern dictionary values)) := by
  refine options.parse_arguments rfl (readFrom_intern dictionary notEmpty _) ?_ ?_
  · simp [List.lookup_eq_none_iff]
  · simp [command?, identifier?, texts, List.lookup, List.filterMap_map]

end DocumentOptions

/-! ### Arguments that ask for the build -/

/-- Arguments that ask for the details of the build mean no command. -/
theorem asksForBuild_of_parse {arguments : List String} {invocation : Invocation}
    (understood : Invocation.parse arguments = .ok invocation) :
    asksForBuild arguments = false := by
  cases arguments with
  | nil => rfl
  | cons first rest =>
      by_contra asks
      have version : first = "--version" ∨ first = "-V" := by
        rw [Bool.not_eq_false] at asks
        simpa [asksForBuild] using asks
      have refused : Invocation.parse (first :: rest) =
          .error (.version [ToolInvocation.description.name]) := by
        unfold Invocation.parse
        rcases version with rfl | rfl <;>
          · rw [CommandDescription.readFrom_cons (by decide) (.inl (by decide))]
            rfl
      rw [refused] at understood
      cases understood

end RowFunctions

import RowFunctions.Settings
import RowFunctions.TomlPrinter
import RowFunctions.YamlPrinter
import RowFunctions.YamlReader

/-!
# Settings documents

Settings are written in TOML or YAML, in four sections with one entry each.  A
document may leave out any section or entry, and unknown ones are ignored.  In
TOML a section may also be a list of its entries in their order, and a date or a
time is a section without known entries.  What a document says
is kept apart from the settings that follow from it, because a document that
says nothing about a setting means its initial value.
-/

namespace RowFunctions

/-- What a document says about each setting. -/
structure SettingsDocument where
  dictionaries : Option String
  plan : Option String
  strictArity : Option Bool
  verbosity : Option UInt8
deriving DecidableEq

def SettingsDocument.settings (document : SettingsDocument) : Settings where
  dictionaries := document.dictionaries
  plan := document.plan
  strictArity := document.strictArity.getD Settings.initial.strictArity
  verbosity := document.verbosity.getD Settings.initial.verbosity

/-- How the parts of a settings document are taken from values of a data format:
the fields with given names, a path, which may be explicitly absent, a truth
value and a level. -/
structure SettingsView (Value : Type) where
  fields? : List String → Value → Option (List (Option Value))
  path? : Value → Option (Option String)
  flag? : Value → Option Bool
  level? : Value → Option UInt8

namespace SettingsView

/-- The only entry of a section, if section and entry are there. -/
def entry? {Value Entry : Type} (view : SettingsView Value) (name : String)
    (read : Value → Option Entry) : Option Value → Option (Option Entry)
  | none => some none
  | some value =>
      match view.fields? [name] value with
      | some [some field] => (read field).map some
      | some [none] => some none
      | _ => none

def document? {Value : Type} (view : SettingsView Value) (value : Value) :
    Option SettingsDocument :=
  match view.fields? ["dictionaries", "plan", "resolve", "debug"] value with
  | some [dictionaries, plan, resolve, debug] => do
      let dictionaries ← view.entry? "path" view.path? dictionaries
      let plan ← view.entry? "path" view.path? plan
      let strictArity ← view.entry? "strict_arity" view.flag? resolve
      let verbosity ← view.entry? "verbosity" view.level? debug
      return ⟨dictionaries.join, plan.join, strictArity, verbosity⟩
  | _ => none

/-- The fields that a list gives in the order of their names. -/
def fieldsInOrder {Value : Type} : List String → List Value → List (Option Value)
  | [], _ => []
  | _ :: names, [] => none :: fieldsInOrder names []
  | _ :: names, value :: values => some value :: fieldsInOrder names values

end SettingsView

namespace TomlSettings

/-- The fields of a TOML table, array or moment. -/
def fields? (names : List String) : Toml → Option (List (Option Toml))
  | .table _ entries => some (names.map fun name => entries.lookup name)
  | .array elements => some (SettingsView.fieldsInOrder names elements)
  | .tables elements =>
      some (SettingsView.fieldsInOrder names (elements.map (Toml.table .header)))
  | .moment => some (SettingsView.fieldsInOrder names [])
  | _ => none

def path? : Toml → Option (Option String)
  | .string path => some (some path)
  | _ => none

def flag? : Toml → Option Bool
  | .boolean flag => some flag
  | _ => none

def level? : Toml → Option UInt8
  | .integer (.ofNat level) => if level < 256 then some (UInt8.ofNat level) else none
  | _ => none

def view : SettingsView Toml := ⟨fields?, path?, flag?, level?⟩

def pathLine : Option String → String
  | some path => "path = " ++ String.ofList (TomlPrinter.string path.toList) ++ "\n"
  | none => ""

def print (settings : Settings) : String :=
  "[dictionaries]\n" ++ pathLine settings.dictionaries ++ "\n[plan]\n" ++
    pathLine settings.plan ++ "\n[resolve]\nstrict_arity = " ++
    (if settings.strictArity then "true" else "false") ++ "\n\n[debug]\nverbosity = " ++
    String.ofList (Numeral.ofNat settings.verbosity.toNat) ++ "\n"

end TomlSettings

namespace YamlSettings

/-- The text of a key, which has to be a scalar. -/
def keyText? : Yaml → Option String
  | .scalar _ _ text => some text
  | _ => none

/-- The fields of a YAML mapping.  No known field may be given twice.  A missing
value has no fields. -/
def fields? (document : YamlDocument) (names : List String) (node : Yaml) :
    Option (List (Option Yaml)) :=
  match document.resolve node with
  | .scalar .plain _ "" => some (SettingsView.fieldsInOrder names [])
  | .mapping entries => do
      let named ← entries.mapM fun entry =>
        (keyText? (document.resolve entry.1)).map fun key => (key, entry.2)
      if names.any fun name => 1 < (named.filter fun entry => entry.1 == name).length then
        none
      else
        some (names.map fun name => named.lookup name)
  | _ => none

def nullTag : String := "tag:yaml.org,2002:null"

def booleanTag : String := "tag:yaml.org,2002:bool"

def integerTag : String := "tag:yaml.org,2002:int"

/-- A path is any scalar.  A plain null leaves the path out, unless a tag says
that it is something else; what is tagged as null has to be null. -/
def path? (document : YamlDocument) (node : Yaml) : Option (Option String) :=
  match document.resolve node with
  | .scalar .plain none path => some (if YamlScalar.isNull path then none else some path)
  | .scalar .plain (some tag) path =>
      if tag ≠ nullTag then some (some path)
      else if YamlScalar.isNull path ∧ path ≠ "" then some none
      else none
  | .scalar _ _ path => some (some path)
  | _ => none

/-- The text of a scalar that can be something else than text: a plain scalar, or
a literal block with a tag that says what it is. -/
def wordWithTag? (document : YamlDocument) (tag : String) (node : Yaml) : Option String :=
  match document.resolve node with
  | .scalar .plain _ text => some text
  | .scalar .literal (some given) text => if given = tag then some text else none
  | _ => none

def flag? (document : YamlDocument) (node : Yaml) : Option Bool :=
  (wordWithTag? document booleanTag node).bind YamlScalar.boolean?

def level? (document : YamlDocument) (node : Yaml) : Option UInt8 := do
  let text ← wordWithTag? document integerTag node
  let level ← YamlScalar.natural? text.toList
  if level < 256 then some (UInt8.ofNat level) else none

def view (document : YamlDocument) : SettingsView Yaml :=
  ⟨fields? document, path? document, flag? document, level? document⟩

/-- What a YAML document says.  An empty one says nothing. -/
def document? (document : YamlDocument) : Option SettingsDocument :=
  (view document).document? (document.root.getD .missing)

def pathSection (name : String) : Option String → String
  | some path =>
      name ++ ":\n  path: " ++ String.ofList (YamlPrinter.stringLine path.toList)
  | none => name ++ ": \x7b\x7d\n"

def print (settings : Settings) : String :=
  pathSection "dictionaries" settings.dictionaries ++ pathSection "plan" settings.plan ++
    "resolve:\n  strict_arity: " ++ (if settings.strictArity then "true" else "false") ++
    "\ndebug:\n  verbosity: " ++ String.ofList (Numeral.ofNat settings.verbosity.toNat) ++ "\n"

end YamlSettings

/-- The formats of settings documents. -/
inductive SettingsFormat where
  | toml
  | yaml
deriving DecidableEq

namespace SettingsFormat

/-- The format that the extension of a file name stands for. -/
def ofExtension? (extension : String) : Option SettingsFormat :=
  if extension = "toml" then some .toml
  else if extension = "yaml" ∨ extension = "yml" then some .yaml
  else none

def read (text : String) : SettingsFormat → Except SettingsFault SettingsDocument
  | toml =>
      match (Toml.parse? text).bind TomlSettings.view.document? with
      | some document => .ok document
      | none => .error (.invalidToml text)
  | yaml =>
      match (YamlDocument.parse? text).bind YamlSettings.document? with
      | some document => .ok document
      | none => .error (.invalidYaml text)

def print (settings : Settings) : SettingsFormat → String
  | toml => TomlSettings.print settings
  | yaml => YamlSettings.print settings

end SettingsFormat

end RowFunctions

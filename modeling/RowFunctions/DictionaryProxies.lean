import RowFunctions.StringDictionaries

/-!
# Dictionary proxies

A query sees a dictionary through a proxy, which adds the strings that the query
invents.  They get transient identifiers in the order of their first use and
never enter the dictionary itself.
-/

namespace RowFunctions

/-- A dictionary together with the transient strings of a query, in the order of
their first use. -/
structure DictionaryProxy where
  dictionary : StringDictionary
  transients : StringTable
deriving DecidableEq

/-- What can be asked of a proxy. -/
inductive ProxyCall where
  | string (id : StringId)
  | strings (ids : List StringId)
  | idOf (value : String)
  | intern (value : String)
  | internAll (values : List String)

/-- What a proxy answers. -/
inductive ProxyAnswer where
  | string (value : String)
  | strings (values : List String)
  | foundId (id : Option StringId)
  | id (id : StringId)
  | ids (ids : List StringId)
deriving DecidableEq

namespace DictionaryProxy

def ofDictionary (dictionary : StringDictionary) : DictionaryProxy := ⟨dictionary, .empty⟩

def transientCount (proxy : DictionaryProxy) : Nat := proxy.transients.size

/-- The string with an identifier, stored or transient. -/
def getString (proxy : DictionaryProxy) (id : StringId) : Except DictionaryError String :=
  if 0 ≤ id then
    match proxy.dictionary.getString? id with
    | some value => .ok value
    | none => .error (.unknownString proxy.dictionary.id id)
  else
    match StringId.transientIndex? id with
    | none => .error (.invalidString proxy.dictionary.id id)
    | some index =>
        match proxy.transients.getAt? index with
        | some value => .ok value
        | none => .error (.unknownString proxy.dictionary.id id)

/-- The strings with several identifiers, or the error of the first that fails. -/
def getStrings (proxy : DictionaryProxy) : List StringId → Except DictionaryError (List String)
  | [] => .ok []
  | id :: ids =>
      match proxy.getString id with
      | .error error => .error error
      | .ok value =>
          match proxy.getStrings ids with
          | .error error => .error error
          | .ok values => .ok (value :: values)

/-- The identifier of a string, stored or transient, if it has one. -/
def getId? (proxy : DictionaryProxy) (value : String) : Option StringId :=
  (proxy.dictionary.getId? value).or (proxy.transients.getId? value)

def addTransient (proxy : DictionaryProxy) (value : String) (id : StringId) : DictionaryProxy :=
  { proxy with transients := proxy.transients.push value id }

/-- The identifier of a string, which becomes transient if it has none yet. -/
def intern (proxy : DictionaryProxy) (value : String) :
    Except DictionaryError StringId × DictionaryProxy :=
  match proxy.getId? value with
  | some id => (.ok id, proxy)
  | none =>
      match StringId.ofTransientIndex? proxy.transientCount with
      | some id => (.ok id, proxy.addTransient value id)
      | none => (.error (.noIdsLeft proxy.dictionary.id), proxy)

/-- Intern several strings, one after the other, up to the first failure. -/
def internAll (proxy : DictionaryProxy) :
    List String → Except DictionaryError (List StringId) × DictionaryProxy
  | [] => (.ok [], proxy)
  | value :: values =>
      match proxy.intern value with
      | (.error error, proxy) => (.error error, proxy)
      | (.ok id, proxy) =>
          match proxy.internAll values with
          | (.error error, proxy) => (.error error, proxy)
          | (.ok ids, proxy) => (.ok (id :: ids), proxy)

def perform (proxy : DictionaryProxy) :
    ProxyCall → Except DictionaryError ProxyAnswer × DictionaryProxy
  | .string id => ((proxy.getString id).map .string, proxy)
  | .strings ids => ((proxy.getStrings ids).map .strings, proxy)
  | .idOf value => (.ok (.foundId (proxy.getId? value)), proxy)
  | .intern value => ((proxy.intern value).1.map .id, (proxy.intern value).2)
  | .internAll values => ((proxy.internAll values).1.map .ids, (proxy.internAll values).2)

end DictionaryProxy

end RowFunctions

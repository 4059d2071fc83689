import RowFunctions.CallSiteResolution
import RowFunctions.DictionaryCatalogs
import RowFunctions.DictionaryProxies

/-!
# Query sessions

A session runs one plan over one catalog.  The proxies that come into being are
numbered, so that two answers tell whether they hold the same proxy.  A memory
owner registers at most one proxy for each dictionary and keeps it; owner `0`
belongs to the session and serves every call that a function makes through its
manager.  A proxy that is asked for without transient strings is not registered;
when the owner has none yet, such a request makes one that nobody else shares.
-/

namespace RowFunctions

/-- The number of a proxy in the order of creation. -/
abbrev ProxyName := Nat

/-- The number of a memory owner. -/
abbrev OwnerName := Nat

/-- Why a call of a function fails. -/
inductive QueryError where
  | resolution (error : ResolutionError)
  | dictionary (error : DictionaryError)
deriving DecidableEq

def QueryError.message (details : ParserDetails) : QueryError → String
  | resolution error => "Internal error: " ++ error.message
  | dictionary error => error.message details

/-- The text of the failure behind a query error, if there is one. -/
def QueryError.cause? (details : ParserDetails) : QueryError → Option String
  | resolution error => some error.message
  | dictionary error => error.cause? details

/-- Whether the running code and the plan disagree. -/
def QueryError.isInternal : QueryError → Bool
  | resolution _ => true
  | dictionary _ => false

/-- The state of a session: what it runs on, which owner registered which proxy
for a dictionary, and all proxies by number. -/
structure QuerySession where
  index : CallSiteIndex
  catalog : DictionaryCatalog
  registry : List ((OwnerName × DictionaryId) × ProxyName)
  proxies : List DictionaryProxy

/-- What can be asked of a session. -/
inductive SessionCall where
  | resolve (name : String) (arity : Option Nat) (argument : Nat)
  | onDictionary (dictionary : DictionaryId) (call : ProxyCall)
  | handle (dictionary : DictionaryId)
  | obtain (owner : OwnerName) (dictionary : DictionaryId) (withTransients : Bool)
  | register (owner : OwnerName) (dictionary : StringDictionary)
  | registered (owner : OwnerName) (dictionary : DictionaryId)
  | onProxy (name : ProxyName) (call : ProxyCall)

/-- What a session answers. -/
inductive SessionAnswer where
  | dictionary (id : DictionaryId)
  | proxy (name : ProxyName)
  | noProxy
  | answer (answer : ProxyAnswer)
  | failed (error : QueryError)
deriving DecidableEq

namespace QuerySession

/-- The owner that belongs to the session. -/
def ownOwner : OwnerName := 0

def start (plan : Plan) (catalog : DictionaryCatalog) : QuerySession :=
  ⟨CallSiteIndex.ofPlan plan, catalog, [], []⟩

def proxy? (session : QuerySession) (name : ProxyName) : Option DictionaryProxy :=
  session.proxies[name]?

/-- The proxy that an owner registered for a dictionary. -/
def registered? (session : QuerySession) (owner : OwnerName) (dictionary : DictionaryId) :
    Option ProxyName :=
  session.registry.lookup (owner, dictionary)

def proxyCount (session : QuerySession) (owner : OwnerName) : Nat :=
  (session.registry.filter fun entry => entry.1.1 == owner).length

def create (session : QuerySession) (dictionary : StringDictionary) :
    ProxyName × QuerySession :=
  (session.proxies.length,
    { session with proxies := session.proxies ++ [.ofDictionary dictionary] })

/-- The proxy registered for a dictionary's identifier, made and registered if
there is none. -/
def register (session : QuerySession) (owner : OwnerName) (dictionary : StringDictionary) :
    ProxyName × QuerySession :=
  match session.registered? owner dictionary.id with
  | some name => (name, session)
  | none =>
      let (name, session) := session.create dictionary
      (name, { session with registry := session.registry ++ [((owner, dictionary.id), name)] })

/-- The proxy for a dictionary of the catalog.  With transient strings it is
registered; without, the registered proxy or one of its own is returned. -/
def obtain (session : QuerySession) (owner : OwnerName) (dictionary : DictionaryId)
    (withTransients : Bool) : Except DictionaryError ProxyName × QuerySession :=
  match session.catalog.get dictionary with
  | .error error => (.error error, session)
  | .ok stored =>
      if withTransients then
        let (name, session) := session.register owner stored
        (.ok name, session)
      else
        match session.registered? owner dictionary with
        | some name => (.ok name, session)
        | none =>
            let (name, session) := session.create stored
            (.ok name, session)

/-- Put a proxy in the place of the one with a number. -/
def replace (session : QuerySession) (name : ProxyName) (proxy : DictionaryProxy) :
    QuerySession :=
  { session with proxies := session.proxies.set name proxy }

/-- Make a call on the proxy with a number; a number without proxy has no proxy
to answer. -/
def callProxy (session : QuerySession) (name : ProxyName) (call : ProxyCall) :
    SessionAnswer × QuerySession :=
  match session.proxy? name with
  | none => (.noProxy, session)
  | some proxy =>
      match proxy.perform call with
      | (.ok answer, proxy) => (.answer answer, session.replace name proxy)
      | (.error error, proxy) => (.failed (.dictionary error), session.replace name proxy)

def perform (session : QuerySession) : SessionCall → SessionAnswer × QuerySession
  | .resolve name arity argument =>
      match (session.index.resolve name arity argument).outcome with
      | .ok dictionary => (.dictionary dictionary, session)
      | .error error => (.failed (.resolution error), session)
  | .onDictionary dictionary call =>
      match session.obtain ownOwner dictionary true with
      | (.ok name, session) => session.callProxy name call
      | (.error error, session) => (.failed (.dictionary error), session)
  | .handle dictionary =>
      match session.obtain ownOwner dictionary true with
      | (.ok name, session) => (.proxy name, session)
      | (.error error, session) => (.failed (.dictionary error), session)
  | .obtain owner dictionary withTransients =>
      match session.obtain owner dictionary withTransients with
      | (.ok name, session) => (.proxy name, session)
      | (.error error, session) => (.failed (.dictionary error), session)
  | .register owner dictionary =>
      let (name, session) := session.register owner dictionary
      (.proxy name, session)
  | .registered owner dictionary =>
      match session.registered? owner dictionary with
      | some name => (.proxy name, session)
      | none => (.noProxy, session)
  | .onProxy name call => session.callProxy name call

def run (session : QuerySession) : List SessionCall → List SessionAnswer × QuerySession
  | [] => ([], session)
  | call :: calls =>
      let (answer, session) := session.perform call
      let (answers, session) := session.run calls
      (answer :: answers, session)

end QuerySession

end RowFunctions

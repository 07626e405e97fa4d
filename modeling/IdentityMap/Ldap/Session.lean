/-
A directory behind an LDAP connection.

The connection is made when the first query of a batch is added, and kept for later
batches.  A search that fails for the moment or gets no answer in time gives the
connection up once its batch is through, so that the next batch makes a new one.
-/
import IdentityMap.Ldap.Entry

namespace IdentityMap.Ldap

/-- What a search asks for. -/
inductive Filter where
  | all (parts : List Filter)
  | any (parts : List Filter)
  | equals (name : String) (value : List UInt8)
deriving Repr

/-- The attributes that every search asks for. -/
def attributes : List String :=
  ["sAMAccountName", "objectSid", "objectClass", "distinguishedName"]

/-- Finds a SID by its bytes. -/
def filterOfSid (sid : Sid) : Except Failure Filter :=
  sid.toBytes.map (.equals "objectSid")

/-- Finds users and groups by name. -/
def filterOfName (name : String) : Filter :=
  .all
    [.any [.equals "objectClass" "user".toUTF8.toList, .equals "objectClass" "group".toUTF8.toList],
     .equals "sAMAccountName" name.toUTF8.toList]

/-- What keeps a request from being answered. -/
inductive Trouble where
  /-- The connection cannot be made, or breaks. -/
  | connection (detail : String)
  | timeout
  /-- The server answers with a result code other than success. -/
  | code (number : Nat) (detail : String)
  | other (detail : String)
deriving DecidableEq, Repr

/-- The result codes of a server that may do better later: busy, and unavailable. -/
def retriableCodes : List Nat := [51, 52]

def Trouble.fault : Trouble → Directory.Fault
  | .connection detail => .transient detail
  | .timeout => .timeout
  | .code n detail =>
    if retriableCodes.contains n then .transient detail else .refused detail
  | .other detail => .refused detail

/-- The requests that a server answers, on a state `σ`. -/
structure Server (σ : Type) where
  connect : σ → Except Trouble Unit × σ
  /-- Logs in with a name and a password. -/
  bind : String → String → σ → Except Trouble Unit × σ
  /-- Searches the subtree under a base. -/
  search : String → Filter → σ → Except Trouble (List RawEntry) × σ

/-- A server that no connection leads to. -/
def unreachable : Server Unit where
  connect s := (.error (.connection "I/O error: Network is unreachable (os error 101)"), s)
  bind _ _ s := (.error (.other "not connected"), s)
  search _ _ s := (.error (.other "not connected"), s)

/-- How a directory is searched. -/
structure Account where
  base : String
  /-- The name to log in with; without one the connection stays anonymous. -/
  bindDn : Option String := none
  password : String := ""
  /-- The domain of every entry, if it is not to be read off the entry. -/
  domainName : Option String := none
deriving DecidableEq, Repr

/-- The server, and whether a connection to it is open. -/
structure Session (σ : Type) where
  server : σ
  connected : Bool := false
deriving DecidableEq, Repr

namespace Session

variable {σ : Type}

/-- Makes a connection, and logs in, unless one is open. -/
def ensureConnected (server : Server σ) (account : Account) (s : Session σ) :
    Except Directory.Fault Unit × Session σ :=
  if s.connected then (.ok (), s)
  else
    match server.connect s.server with
    | (.error trouble, t) => (.error trouble.fault, { s with server := t })
    | (.ok (), t) =>
      match account.bindDn with
      | none => (.ok (), { server := t, connected := true })
      | some dn =>
        match server.bind dn account.password t with
        | (.error trouble, t) => (.error trouble.fault, { s with server := t })
        | (.ok (), t) => (.ok (), { server := t, connected := true })

/-- What a query searches for. -/
def filterOf : Directory.Query → Except Failure Filter
  | .ofSid sid => filterOfSid sid
  | .ofName name _ => .ok (filterOfName name)

/-- The outcome of one query, and whether it spoils the connection. -/
def searchOne (server : Server σ) (account : Account) (query : Directory.Query) (t : σ) :
    (Directory.Outcome × Bool) × σ :=
  match filterOf query with
  | .error e => ((.error (.malformed e.message), false), t)
  | .ok filter =>
    match server.search account.base filter t with
    | (.ok entries, t) => ((select account.domainName query entries, false), t)
    | (.error trouble, t) =>
      ((.error trouble.fault, trouble.fault.isTransient || trouble.fault = .timeout), t)

/-- The outcomes of several queries, and whether one of them spoiled the connection. -/
def searchAll (server : Server σ) (account : Account) :
    List Directory.Query → σ → (List Directory.Outcome × Bool) × σ
  | [], t => (([], false), t)
  | query :: rest, t =>
    let ((outcome, lost), t) := searchOne server account query t
    let ((outcomes, lostLater), t) := searchAll server account rest t
    ((outcome :: outcomes, lost || lostLater), t)

/-- Sends the queries of a batch. -/
def run (server : Server σ) (account : Account) (queries : List Directory.Query)
    (s : Session σ) : Except Directory.Fault (List Directory.Outcome) × Session σ :=
  match s.ensureConnected server account with
  | (.error fault, s) => (.error fault, s)
  | (.ok (), s) =>
    let ((outcomes, lost), t) := searchAll server account queries s.server
    (.ok outcomes, { server := t, connected := !lost })

/-- The directory behind a server. -/
def client (server : Server σ) (account : Account) : Directory.Client (Session σ) where
  start _ s := (.ok (), s)
  enqueue _ _ s := s.ensureConnected server account
  finish sent s := s.run server account sent

end Session
end IdentityMap.Ldap

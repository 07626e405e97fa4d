/-
Directories: services that know the names of SIDs and the SIDs of names.

A directory is asked in batches: a batch is started, queries are added to it one by one,
and it is finished, which gives one outcome per query, in order.  Each of the three steps
may fail.  A transient fault says that the whole batch may be tried again; every other
fault is final.

A client is given by those three steps on a state of its own.  The queries that were
added so far are handed to each step, so that the state need not hold them.
-/
import IdentityMap.Identity

namespace IdentityMap.Directory

/-- An object of the directory. -/
structure Entry where
  sid : Sid
  name : String
  domain : String
  type : AccountType
deriving DecidableEq, Repr

/-- What is looked up: the name of a SID, or the SID of a name. -/
inductive Query where
  | ofSid (sid : Sid)
  | ofName (name domain : String)
deriving DecidableEq, Repr

/-- Why a directory does not answer. -/
inductive Fault where
  /-- There is no such entry. -/
  | notFound
  /-- The network or the server failed for the moment. -/
  | transient (detail : String)
  /-- The item was not answered in time. -/
  | timeout
  /-- There is an entry, and it makes no sense. -/
  | malformed (detail : String)
  /-- The server refused, and would refuse again. -/
  | refused (detail : String)
deriving DecidableEq, Repr

namespace Fault

def message : Fault → String
  | .notFound => "directory entry not found"
  | .transient detail => "transient directory error: " ++ detail
  | .timeout => "directory lookup timed out"
  | .malformed detail => "malformed directory entry: " ++ detail
  | .refused detail => "LDAP error: " ++ detail

/-- The batch may be tried again. -/
def isTransient : Fault → Bool
  | .transient _ => true
  | _ => false

/-- What a fault means for the item that was looked up. -/
def failure : Fault → Failure
  | .notFound => .notFound
  | .transient detail => .directoryUnavailable detail
  | .timeout => .directoryUnavailable "lookup timed out"
  | .malformed detail => .storeFailed (malformed detail).message
  | .refused detail => .storeFailed (refused detail).message

end Fault

/-- What a batch says about one query. -/
abbrev Outcome := Except Fault Entry

/-- The three steps of a batch, on a state `δ`. -/
structure Client (δ : Type) where
  /-- Starts a batch that will hold so many queries. -/
  start : Nat → δ → Except Fault Unit × δ
  /-- Adds a query to the batch that holds the queries in the list. -/
  enqueue : List Query → Query → δ → Except Fault Unit × δ
  /-- Finishes the batch that holds the queries in the list. -/
  finish : List Query → δ → Except Fault (List Outcome) × δ

/-- The directory of a host that has none: it knows nothing. -/
def absent : Client Unit where
  start _ s := (.ok (), s)
  enqueue _ _ s := (.ok (), s)
  finish sent s := (.ok (sent.map fun _ => .error .notFound), s)

end IdentityMap.Directory

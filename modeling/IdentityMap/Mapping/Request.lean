/-
What callers ask and are told, and how far each item of a batch has come.
-/
import IdentityMap.Cache.Expiry
import IdentityMap.Rule.Evaluation

namespace IdentityMap

/-- One item of a batch. -/
structure Request where
  /-- The identity that is to be mapped. -/
  id : Identity
  /-- The kind of identity it is to be mapped to. -/
  wanted : Wanted
  /-- The name of `id`, if the caller knows it. -/
  name : Option String := none
  domain : Option String := none
  /-- Never mint an id for this item. -/
  noNewId : Bool := false
  /-- Never ask the directory or the name service for this item. -/
  noDirectory : Bool := false
deriving DecidableEq, Repr

namespace Request

/-- Nothing but reserved identities and the cache may answer: either switch does it. -/
def cacheOnly (r : Request) : Bool :=
  r.noNewId || r.noDirectory

/-- The name that came with the request; the empty name is none. -/
def givenName? (r : Request) : Option String :=
  r.name.filter (!·.isEmpty)

end Request

/-- The answer to one request. -/
structure Answer where
  id : Option Identity := none
  direction : Direction := .both
  /-- Why the mapping failed, or nothing if it did not. -/
  failure : Option Failure := some .notFound
  /-- The name of the identity in `id`. -/
  name : Option String := none
  domain : Option String := none
deriving DecidableEq, Repr

namespace Answer

def isSuccess (a : Answer) : Bool :=
  a.failure.isNone

def unix? (a : Answer) : Option UnixId :=
  a.id.bind Identity.unix?

def sid? (a : Answer) : Option Sid :=
  a.id.bind Identity.sid?

/-- A failure without an identity. -/
def failed (e : Failure) : Answer :=
  { failure := some e }

/-- A failure that carries the id of nobody. -/
def nobody (kind : IdKind) (e : Failure) : Answer :=
  { id := some (.unix (.nobody kind)), failure := some e }

end Answer

/-- The name of a Windows account. -/
structure WindowsName where
  name : String
  domain : String
  type : AccountType
deriving DecidableEq, Repr

/-- A minted id whose cache row is past its time, kept in case resolution would mint one
for the same SID again. -/
abbrev Fallback := Option UnixId

/-- What was worked out for an item, to be written to the cache. -/
structure Resolution where
  source : NameSource
  windowsName : Option WindowsName
  /-- The minted id that this resolution replaces, if it replaces one. -/
  superseded : Fallback
  expiry : Expiry
deriving DecidableEq, Repr

/-- How far an item has come. -/
inductive ItemState where
  | start
  /-- Answered from the reserved identities or a valid row; nothing is to be written. -/
  | cacheHit
  /-- Its name has to come from the directory. -/
  | awaitsDirectory (fallback : Fallback)
  /-- Its name is known, and the rules come next. -/
  | awaitsRules (name : WindowsName) (source : NameSource) (fallback : Fallback)
  | resolved (resolution : Resolution)
  | failed (e : Failure)
deriving DecidableEq, Repr

/-- Nothing is left to do for the item. -/
def ItemState.isFinal : ItemState → Bool
  | .cacheHit | .resolved _ | .failed _ => true
  | .start | .awaitsDirectory _ | .awaitsRules _ _ _ => false

/-- An item on its way: what it would be answered now, and how far it has come. -/
structure Item where
  answer : Answer := {}
  state : ItemState := .start
deriving DecidableEq, Repr

namespace Item

/-- The item fails, with what its answer carries so far. -/
def fail (answer : Answer) (e : Failure) : Item :=
  { answer := { answer with failure := some e }, state := .failed e }

/-- The item fails without an identity. -/
def failed (e : Failure) : Item :=
  fail {} e

/-- The item fails with the id of nobody. -/
def nobody (kind : IdKind) (e : Failure) : Item :=
  { answer := .nobody kind e, state := .failed e }

end Item
end IdentityMap

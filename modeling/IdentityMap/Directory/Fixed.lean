/-
A directory with a fixed list of entries, for hosts without a network and for rehearsing
outages.

Names and domains compare in any ASCII case, SIDs exactly, and the first entry that fits
is the answer.  Lookups of chosen SIDs time out, and a chosen number of queries cannot be
added to their batch.
-/
import IdentityMap.Directory.Basic

namespace IdentityMap.Directory

/-- How many batches were started, and how many queries were added, over all of them. -/
structure Traffic where
  batches : Nat := 0
  items : Nat := 0
deriving DecidableEq, Repr

def Traffic.countBatch (t : Traffic) : Traffic :=
  { t with batches := t.batches + 1 }

def Traffic.countItem (t : Traffic) : Traffic :=
  { t with items := t.items + 1 }

/-- What a fixed directory knows. -/
structure Fixed where
  entries : List Entry
  /-- The SIDs whose lookups time out. -/
  timeouts : List Sid
deriving DecidableEq, Repr

namespace Fixed

/-- The entry stands for this name in this domain. -/
def isNamed (name domain : String) (entry : Entry) : Bool :=
  sameFolded entry.name name && sameFolded entry.domain domain

/-- The answer for one query. -/
def resolve (fixed : Fixed) : Query → Outcome
  | .ofSid sid =>
    if fixed.timeouts.contains sid then .error .timeout
    else
      match fixed.entries.find? (·.sid == sid) with
      | some entry => .ok entry
      | none => .error .notFound
  | .ofName name domain =>
    match fixed.entries.find? (isNamed name domain) with
    | some entry => .ok entry
    | none => .error .notFound

/-- The state of a fixed directory: the outages still to come, and the traffic so far. -/
structure State where
  outages : Nat := 0
  traffic : Traffic := {}
deriving DecidableEq, Repr

/-- Each outage that is still to come uses up one attempt to add a query. -/
def client (fixed : Fixed) : Client State where
  start _ s := (.ok (), { s with traffic := s.traffic.countBatch })
  enqueue _ _ s :=
    match s.outages with
    | 0 => (.ok (), { s with traffic := s.traffic.countItem })
    | outages + 1 => (.error (.transient "injected failure"), { s with outages })
  finish sent s := (.ok (sent.map fixed.resolve), s)

end Fixed
end IdentityMap.Directory

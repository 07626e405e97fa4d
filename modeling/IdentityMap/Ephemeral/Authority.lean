/-
Authorities: who decides which blocks of ids may be minted from.

`SequentialIds` hands out consecutive blocks of each kind and never the sentinel id.
`MeteredIds` counts what it is asked and can be cut off after a number of requests.
-/
import IdentityMap.WellKnown

namespace IdentityMap

/-- A source of blocks of ids, on a state `α`.  A grant is the first id of a block of so
many consecutive ones. -/
structure IdAuthority (α : Type) where
  grant : IdKind → Nat → α → Except Failure UInt32 × α

/-- The first id of each kind that was not granted yet. -/
structure SequentialIds where
  uid : Nat
  gid : Nat
deriving DecidableEq, Repr

namespace SequentialIds

/-- The space above the ids that are reserved. -/
def aboveReserved : SequentialIds :=
  { uid := (WellKnown.maxNumber .uid).toNat + 1, gid := (WellKnown.maxNumber .gid).toNat + 1 }

def next (s : SequentialIds) : IdKind → Nat
  | .uid => s.uid
  | .gid => s.gid

def withNext (s : SequentialIds) (n : Nat) : IdKind → SequentialIds
  | .uid => { s with uid := n }
  | .gid => { s with gid := n }

/-- A block is granted as a whole or not at all: it has to end below the sentinel id. -/
def grant (kind : IdKind) (count : Nat) (s : SequentialIds) :
    Except Failure UInt32 × SequentialIds :=
  if s.next kind + count ≤ sentinelId.toNat then
    (.ok (UInt32.ofNat (s.next kind)), s.withNext (s.next kind + count) kind)
  else (.error (.noFreeId (kind.text ++ " space exhausted")), s)

def authority : IdAuthority SequentialIds where
  grant := grant

end SequentialIds

/-- Consecutive ids with a count of the requests, and a limit on them if there is one. -/
structure MeteredIds where
  ids : SequentialIds := .aboveReserved
  requests : Nat := 0
  limit : Option Nat := none
deriving DecidableEq, Repr

namespace MeteredIds

def grant (kind : IdKind) (count : Nat) (s : MeteredIds) :
    Except Failure UInt32 × MeteredIds :=
  let counted := { s with requests := s.requests + 1 }
  if s.limit.any (· < s.requests + 1) then
    (.error (.noFreeId "authority offline"), counted)
  else
    let (answer, ids) := SequentialIds.grant kind count s.ids
    (answer, { counted with ids })

def authority : IdAuthority MeteredIds where
  grant := grant

end MeteredIds
end IdentityMap

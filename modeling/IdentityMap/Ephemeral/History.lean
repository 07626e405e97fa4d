/-
The ids that were minted during one batch, by SID.

The cache is written only when the whole batch is resolved.  Until then the history makes
sure that two items which name the same SID get the same id.
-/
import IdentityMap.Ephemeral.Allocator

namespace IdentityMap

/-- The ids of one SID. -/
structure MintedIds where
  sid : Sid
  uid : Option UInt32 := none
  gid : Option UInt32 := none
deriving DecidableEq, Repr

namespace MintedIds

def number? (ids : MintedIds) : IdKind → Option UInt32
  | .uid => ids.uid
  | .gid => ids.gid

def withNumber (ids : MintedIds) (kind : IdKind) (number : UInt32) : MintedIds :=
  match kind with
  | .uid => { ids with uid := some number }
  | .gid => { ids with gid := some number }

end MintedIds

/-- One entry for each SID that got an id, in the order in which they did. -/
structure SidHistory where
  entries : List MintedIds := []
deriving DecidableEq, Repr

namespace SidHistory

/-- How many SIDs got an id. -/
def size (history : SidHistory) : Nat :=
  history.entries.length

/-- The id of this kind that a SID got. -/
def get? (history : SidHistory) (sid : Sid) (kind : IdKind) : Option UInt32 :=
  (history.entries.find? (·.sid == sid)).bind (·.number? kind)

/-- Notes the id of a SID, in place of the one of the same kind it had. -/
def insert (history : SidHistory) (sid : Sid) (kind : IdKind) (number : UInt32) : SidHistory :=
  if history.entries.any (·.sid == sid) then
    { entries := history.entries.map fun ids =>
        if ids.sid == sid then ids.withNumber kind number else ids }
  else
    { entries := history.entries ++ [({ sid } : MintedIds).withNumber kind number] }

end SidHistory

/-- What minting reads and writes: the history of the batch and the allocator. -/
structure Mint (α : Type) where
  history : SidHistory := {}
  allocator : Allocator α
deriving Repr

namespace Mint

variable {α : Type}

/-- The id that the SID already got in this batch, or a new one. -/
def obtain (authority : IdAuthority α) (blockSize : Nat) (sid : Sid) (kind : IdKind)
    (m : Mint α) : Except Failure UInt32 × Mint α :=
  match m.history.get? sid kind with
  | some number => (.ok number, m)
  | none =>
    match m.allocator.allocate authority blockSize kind with
    | (.ok number, allocator) =>
      (.ok number, { history := m.history.insert sid kind number, allocator })
    | (.error e, allocator) => (.error e, { m with allocator })

/-- Takes an id that the SID had before, and notes it for the batch. -/
def reuse (sid : Sid) (id : UnixId) (m : Mint α) : Mint α :=
  { m with history := m.history.insert sid id.kind id.number }

end Mint
end IdentityMap

/-
Minting ids, one at a time, from the blocks that an authority grants.

Each kind has a window of ids still to be handed out.  When a window is empty the
authority is asked for the next block.  What is left of a window is lost when its
allocator is, so an id is never handed out twice.
-/
import IdentityMap.Ephemeral.Authority

namespace IdentityMap

/-- The ids from `next` up to, and without, `limit`. -/
structure IdWindow where
  next : Nat := 0
  limit : Nat := 0
deriving DecidableEq, Repr

/-- The windows of both kinds, and the state of the authority behind them. -/
structure Allocator (α : Type) where
  uids : IdWindow := {}
  gids : IdWindow := {}
  authority : α
deriving Repr

namespace Allocator

/-- How many ids are asked for at a time unless the settings say otherwise. -/
def defaultBlockSize : Nat := 8192

variable {α : Type}

def window (a : Allocator α) : IdKind → IdWindow
  | .uid => a.uids
  | .gid => a.gids

def withWindow (a : Allocator α) (w : IdWindow) : IdKind → Allocator α
  | .uid => { a with uids := w }
  | .gid => { a with gids := w }

/-- The next id of a kind.  A block holds at least one id, whatever the settings say, so
one block is enough. -/
def allocate (authority : IdAuthority α) (blockSize : Nat) (kind : IdKind) (a : Allocator α) :
    Except Failure UInt32 × Allocator α :=
  let w := a.window kind
  if w.next < w.limit then
    (.ok (UInt32.ofNat w.next), a.withWindow { w with next := w.next + 1 } kind)
  else
    match authority.grant kind (max 1 blockSize) a.authority with
    | (.ok start, state) =>
      (.ok start, ({ a with authority := state }).withWindow
        { next := start.toNat + 1, limit := start.toNat + max 1 blockSize } kind)
    | (.error e, state) => (.error e, { a with authority := state })

/-- So many ids of a kind, or the first failure. -/
def allocateMany (authority : IdAuthority α) (blockSize : Nat) (kind : IdKind) :
    Nat → Allocator α → Except Failure (List UInt32) × Allocator α
  | 0, a => (.ok [], a)
  | count + 1, a =>
    match allocate authority blockSize kind a with
    | (.error e, a) => (.error e, a)
    | (.ok id, a) =>
      let (rest, a) := allocateMany authority blockSize kind count a
      (rest.map (id :: ·), a)

end Allocator
end IdentityMap

/-
A pool of workers, each with a context of its own.

Workers that wait for a batch stand in line, so batches that come one after another are
handed out in turn.
-/
import IdentityMap.Service.Contexts

namespace IdentityMap

/-- A unit of work for one worker. -/
inductive Batch where
  | sidsToIds (requests : List Request)
  | idsToSids (requests : List Request)

namespace Batch

/-- How many requests the batch holds. -/
def size : Batch → Nat
  | .sidsToIds requests | .idsToSids requests => requests.length

/-- Answers a batch. -/
def run {δ α : Type} (e : Engine δ α) (now : Int) : Batch → EngineState δ α →
    List Answer × EngineState δ α
  | .sidsToIds requests => e.mapSids now requests
  | .idsToSids requests => e.mapIds now requests

end Batch

/-- The workers of a service, and whose turn it is. -/
structure Pool (δ α : Type) where
  service : Service δ α
  workers : Nat
  turn : Nat := 0

namespace Pool

variable {δ α : Type}

/-- A pool has at least one worker. -/
def workerCount (requested : Nat) : Nat :=
  max 1 requested

/-- Runs a batch on the worker whose turn it is. -/
def submit (pool : Pool δ α) (now : Int) (batch : Batch) (disk : Disk) :
    List Answer × Pool δ α × Disk :=
  let (answers, service, disk) :=
    pool.service.run pool.turn (batch.run pool.service.engine now) disk
  (answers, { pool with service, turn := (pool.turn + 1) % pool.workers }, disk)

end Pool
end IdentityMap

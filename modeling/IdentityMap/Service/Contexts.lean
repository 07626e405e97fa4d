/-
A service: one engine, and contexts that run batches through it.

The contexts share the directory and the minting of ids.  Their stores are either files
that they share too, or kept in memory, and then each context has its own.  Stores that are
kept nowhere stay in memory as long as they are open.
-/
import IdentityMap.Host.Store
import IdentityMap.Mapping.ByName

namespace IdentityMap

/-- Where the contexts keep their stores. -/
inductive Storage where
  /-- In memory: one pair of stores for each context. -/
  | memory (contexts : List Stores)
  /-- In the files of a directory. -/
  | files (directory : String)

/-- An engine with the state that its contexts share, and their stores. -/
structure Service (δ α : Type) where
  engine : Engine δ α
  directory : δ
  allocator : Allocator α
  storage : Storage

namespace Service

variable {δ α : Type}

/-- Where so many contexts keep their stores, if they were opened before. -/
def storageIn (directory : String) (contexts : Nat) : Storage :=
  if keepsNothing directory then .memory (List.replicate contexts {}) else .files directory

/-- The stores of so many new contexts.  With a directory they are opened in its files,
and a fault of any of them is a fault of the service; without a context nothing is opened. -/
def openStorage (directory : Option String) (contexts : Nat) (disk : Disk) :
    Except StoreFault Storage × Disk :=
  match directory with
  | none => (.ok (.memory (List.replicate contexts {})), disk)
  | some directory =>
    let storage := storageIn directory contexts
    if contexts = 0 then (.ok storage, disk)
    else
      let (stores, disk) := disk.openStores directory
      (stores.map fun _ => storage, disk)

/-- The stores that a context sees. -/
def stores (service : Service δ α) (context : Nat) (disk : Disk) : Stores :=
  match service.storage with
  | .memory contexts => (contexts[context]?).getD {}
  | .files directory => (disk.openStores directory).1.toOption.getD {}

/-- What an engine call of a context starts from. -/
def stateOf (service : Service δ α) (context : Nat) (disk : Disk) : EngineState δ α :=
  let stores := service.stores context disk
  { cache := stores.cache, rules := stores.rules, directory := service.directory,
    allocator := service.allocator }

/-- Keeps what an engine call of a context came to. -/
def keep (service : Service δ α) (context : Nat) (s : EngineState δ α) (disk : Disk) :
    Service δ α × Disk :=
  let stores : Stores := { cache := s.cache, rules := s.rules }
  let shared := { service with directory := s.directory, allocator := s.allocator }
  match service.storage with
  | .memory contexts => ({ shared with storage := .memory (contexts.set context stores) }, disk)
  | .files directory => (shared, disk.saveStores directory stores)

/-- Runs an engine call in a context. -/
def run {β : Type} (service : Service δ α) (context : Nat)
    (call : EngineState δ α → β × EngineState δ α) (disk : Disk) : β × Service δ α × Disk :=
  let (answer, s) := call (service.stateOf context disk)
  (answer, service.keep context s disk)

end Service
end IdentityMap

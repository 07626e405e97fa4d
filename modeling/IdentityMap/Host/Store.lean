/-
Opening the two stores.

A store whose file is missing or blank starts empty.  The cache can be made again, so a
file that is no cache is cleared away and replaced by an empty one.  The rules are an
administrator's work, so a file that is no rule store is left alone and reported.

A store keeps further files beside its own.  Where directories have their names, the store
cannot be opened, or what is no cache cannot be cleared away.

The names of both stores can lead to one file.  Then it stays what it was first, the cache,
and it keeps no rules.
-/
import IdentityMap.Host.Disk
import IdentityMap.Host.StoreName

namespace IdentityMap

/-! ### Faults -/

/-- What stands in the way of opening a store, whatever its file holds. -/
inductive Obstacle where
  | address (fault : AddressFault)
  /-- The file cannot be made or opened. -/
  | unopenable (name : String)
  /-- A file beside it cannot be opened. -/
  | besideUnopenable
  /-- A file beside it cannot be read. -/
  | besideUnreadable
  /-- A file beside it cannot be removed. -/
  | besideUnremovable
deriving DecidableEq, Repr

namespace Obstacle

def message : Obstacle → String
  | .address fault => fault.message
  | .unopenable name => "unable to open database file: " ++ name
  | .besideUnopenable => "unable to open database file"
  | .besideUnreadable | .besideUnremovable => "disk I/O error"

/-- The kind of obstacle, with its number. -/
def kind : Obstacle → String
  | .address (.deniedAccess _) => "Error code 3: Access permission denied"
  | .address _ => "Error code 1: SQL error or missing database"
  | .unopenable _ | .besideUnopenable => "Error code 14: Unable to open the database file"
  | .besideUnreadable => "Error code 266: Error reading from disk"
  | .besideUnremovable => "Error code 2570: I/O error within xDelete of a VFS object"

end Obstacle

/-- Why a store cannot be opened. -/
inductive StoreFault where
  /-- The file is not a store of this kind. -/
  | corrupt (store name : String)
  | blocked (obstacle : Obstacle)
  /-- The file can be opened, but its tables cannot be made or brought up to date. -/
  | unwritable
  /-- A directory of the stores cannot be made, or a file cannot be cleared away. -/
  | disk (fault : DiskFault)
deriving DecidableEq, Repr

def StoreFault.message : StoreFault → String
  | .corrupt store name =>
    store ++ " store at '" ++ name ++ "' is corrupt: SQLite error: file is not a database"
  | .blocked obstacle => "SQLite error: " ++ obstacle.message
  | .unwritable =>
    "database migration failed (version 1): attempt to write a readonly database"
  | .disk fault => "database I/O error: " ++ fault.message

/-- The fault and what lies behind it, one after another. -/
def StoreFault.causes (fault : StoreFault) : List String :=
  fault.message :: match fault with
    | .corrupt _ _ | .unwritable => []
    | .blocked obstacle => [obstacle.message, obstacle.kind]
    | .disk fault => [fault.message]

/-! ### Where stores are -/

/-- The cache and the rules that a worker uses. -/
structure Stores where
  cache : Cache := {}
  rules : RuleTable := {}

/-- The name of the cache within the directory of the stores. -/
def cacheFile (directory : String) : String :=
  Path.join directory "cache.db"

/-- The name of the rules within the directory of the stores. -/
def rulesFile (directory : String) : String :=
  Path.join directory "rules.db"

/-- The stores of this directory are kept nowhere. -/
def keepsNothing (directory : String) : Bool :=
  match StoreName.read (cacheFile directory) with
  | .ok .nowhere => true
  | _ => false

/-- Where a store is. -/
inductive StorePlace where
  /-- In a file that holds something, or in one that is blank or not there yet. -/
  | file (path : Path) (body : Option FileBody)
  | nowhere

namespace Disk

/-- The path of a store's file may not be longer, in bytes. -/
def storePathLimit : Nat := 504

/-- No path on the way to a store's file may be longer, in bytes. -/
def storeWayLimit : Nat := 511

/-- The path to which steps lead, when going back undoes the step before, whatever is
there.  Nothing has to be there on the way, but a file must not be gone through. -/
def storePath (disk : Disk) (path : Path) : List String → Except DiskFault Path
  | [] => .ok path
  | step :: rest =>
    let path := path.descend step
    if storeWayLimit < path.text.utf8ByteSize then .error .nameTooLong
    else match disk.locate path.text with
      | .ok _ | .error .missing => disk.storePath path rest
      | .error fault => .error fault

/-- What the files beside a store stand in the way of, given whether its own file is blank.
Only directories do: other files are taken over or replaced. -/
def besideStore (disk : Disk) (path : Path) (isBlank : Bool) : Option Obstacle :=
  let journal := disk.hasDirectory (path.text ++ "-journal")
  let log := disk.hasDirectory (path.text ++ "-wal")
  if journal && !isBlank then some .besideUnreadable
  else if log && isBlank then some .besideUnremovable
  else if journal || log then some .besideUnopenable
  else none

/-- Where the store of a name is, and what its file holds. -/
def storePlace (disk : Disk) (name : String) : Except Obstacle StorePlace := do
  match ← (StoreName.read name).mapError .address with
  | .nowhere => pure .nowhere
  | .file text mayMake =>
    let fault := Obstacle.unopenable name
    let path ← (disk.storePath (Path.start disk.workingDirectory text) (Path.steps text)).mapError
      fun _ => fault
    if storePathLimit < path.text.utf8ByteSize then throw fault
    let body ←
      match disk.locate path.text with
      | .ok (.file _ body) => pure (if body.isBlank then none else some body)
      | .ok (.free _) => if mayMake then pure none else throw fault
      | .ok (.directory _) | .error _ => throw fault
    match disk.besideStore path body.isNone with
    | some obstacle => throw obstacle
    | none => pure (.file path body)

/-! ### Opening -/

/-- A store as it is opened, and what its file holds from then on. -/
structure Opened (β : Type) where
  store : β
  body : FileBody

/-- Opens a store: as a new one if its file is blank, and else as the file is read.  A new
one has to be able to keep a further file beside its own. -/
def openStore {β : Type} (disk : Disk) (name : String) (new : Opened β)
    (read : FileBody → Except StoreFault (Opened β)) : Except StoreFault β × Disk :=
  match disk.storePlace name with
  | .error obstacle => (.error (.blocked obstacle), disk)
  | .ok .nowhere => (.ok new.store, disk)
  | .ok (.file path none) =>
    if disk.hasDirectory (path.text ++ "-shm") then (.error .unwritable, disk)
    else (.ok new.store, disk.put path new.body)
  | .ok (.file path (some body)) =>
    match read body with
    | .ok opened => (.ok opened.store, disk.put path opened.body)
    | .error fault => (.error fault, disk)

/-- A cache as it is opened. -/
def openedCache (cache : Cache) : Opened Cache :=
  { store := cache, body := .cache cache }

/-- Rules as they are opened. -/
def openedRules (rules : RuleTable) : Opened RuleTable :=
  { store := rules, body := .rules rules }

/-- Opens the cache in a file as it stands. -/
def tryCache (disk : Disk) (name : String) : Except StoreFault Cache × Disk :=
  disk.openStore name (openedCache {}) fun
    | .cache cache => .ok (openedCache cache)
    | .bytes _ | .rules _ | .oldRules _ => .error (.corrupt "cache" name)

/-- Opens the cache of a name.  What is no cache is cleared away first: the file that has
the name, and those beside it. -/
def openCache (disk : Disk) (name : String) : Except StoreFault Cache × Disk :=
  match disk.tryCache name with
  | (.error (.corrupt _ _), disk) =>
    match disk.removeFiles [name, name ++ "-wal", name ++ "-shm"] with
    | (.error fault, disk) => (.error (.disk fault), disk)
    | (.ok (), disk) => disk.tryCache name
  | opened => opened

/-- Opens the rules of a name, bringing an old table up to date. -/
def openRules (disk : Disk) (name : String) : Except StoreFault RuleTable × Disk :=
  disk.openStore name (openedRules {}) fun
    | .rules rules => .ok (openedRules rules)
    | .oldRules rows =>
      match RuleTable.upgrade? rows with
      | some rules => .ok (openedRules rules)
      | none => .error .unwritable
    | .cache cache => .ok { store := {}, body := .cache cache }
    | .bytes _ => .error (.corrupt "rules" name)

/-- Opens both stores in a directory, the cache first. -/
def openStores (disk : Disk) (directory : String) : Except StoreFault Stores × Disk :=
  match disk.openCache (cacheFile directory) with
  | (.error fault, disk) => (.error fault, disk)
  | (.ok cache, disk) =>
    match disk.openRules (rulesFile directory) with
    | (.error fault, disk) => (.error fault, disk)
    | (.ok rules, disk) => (.ok { cache, rules }, disk)

/-! ### Writing back -/

/-- Writes a store back to its file, if it has one.  Rules do not replace a cache. -/
def saveStore (disk : Disk) (name : String) (body : FileBody) : Disk :=
  match disk.storePlace name, body with
  | .ok (.file _ (some (.cache _))), .rules _ => disk
  | .ok (.file path _), body => disk.put path body
  | .ok .nowhere, _ | .error _, _ => disk

/-- Writes both stores back to their directory. -/
def saveStores (disk : Disk) (directory : String) (stores : Stores) : Disk :=
  (disk.saveStore (cacheFile directory) (.cache stores.cache)).saveStore
    (rulesFile directory) (.rules stores.rules)

end Disk
end IdentityMap

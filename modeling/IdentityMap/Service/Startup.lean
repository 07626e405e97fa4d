/-
Starting a service as a configuration says.

Minting goes on above every id that was minted before, as far as the cache remembers, so
that an id that was handed out stays with its SID.
-/
import IdentityMap.Config.Loading
import IdentityMap.Directory.Source
import IdentityMap.Host.Accounts
import IdentityMap.Service.Contexts

namespace IdentityMap

/-- Why a service cannot be started. -/
inductive StartFault where
  | store (fault : StoreFault)
  /-- The cache does not say where minting stopped. -/
  | cache (failure : Failure)
deriving DecidableEq, Repr

/-- The fault and what lies behind it, one after another. -/
def StartFault.causes : StartFault → List String
  | .store fault => fault.causes
  | .cache failure => [failure.message]

/-- The first id of a kind that is above all reserved ones and all that were minted. -/
def firstFree (cache : Cache) (kind : IdKind) : Except Failure Nat :=
  (cache.maxMinted kind).map fun minted =>
    let last := max (WellKnown.maxNumber kind).toNat ((minted.map (·.toNat)).getD 0)
    min (last + 1) sentinelId.toNat

/-- The ids that a cache leaves to be minted. -/
def SequentialIds.above (cache : Cache) : Except Failure SequentialIds := do
  pure { uid := ← firstFree cache .uid, gid := ← firstFree cache .gid }

/-- The directory that a configuration names. -/
def Config.source (c : Config) : Directory.Source :=
  match c.directory with
  | none => .absent
  | some d =>
    .ldap
      { base := d.baseDn, bindDn := d.bindDn, password := d.password.getD ""
        domainName := d.domainName }
      { server := () }

namespace Service

variable {α : Type}

/-- The service of a configuration, with its stores still closed. -/
def ofConfig (authority : IdAuthority α) (start : SequentialIds → α) (c : Config)
    (ids : SequentialIds) (disk : Disk) : Service Directory.Source α :=
  { engine := {
      settings := c.mapping
      names := disk.nameService c.passwdFile c.groupFile
      directory := Directory.Source.client
      authority
      blockSize := c.blockSize }
    directory := c.source
    allocator := { authority := start ids }
    storage := storageIn c.dataDir 0 }

/-- Makes the directory of the stores, and starts the service.  What was made stays, also
if the service cannot be started. -/
def start (authority : IdAuthority α) (first : SequentialIds → α) (c : Config) (disk : Disk) :
    Except StartFault (Service Directory.Source α) × Disk :=
  match disk.createDirectories c.dataDir with
  | (.error fault, disk) => (.error (.store (.disk fault)), disk)
  | (.ok (), disk) =>
    match disk.openCache (cacheFile c.dataDir) with
    | (.error fault, disk) => (.error (.store fault), disk)
    | (.ok cache, disk) =>
      match SequentialIds.above cache with
      | .error failure => (.error (.cache failure), disk)
      | .ok ids => (.ok (ofConfig authority first c ids disk), disk)

end Service
end IdentityMap

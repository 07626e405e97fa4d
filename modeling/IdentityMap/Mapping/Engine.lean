/-
What mapping works with: settings and collaborators, which stay as they are, and a state,
which every call hands on.

The engine is open in the directory and in the authority.  A directory works on a state
`δ` and an authority on a state `α`; nothing is known of either but the answers.
-/
import IdentityMap.Cache.Upkeep
import IdentityMap.Directory.Lookup
import IdentityMap.Ephemeral.History
import IdentityMap.Mapping.Request

namespace IdentityMap

/-- The settings that mapping depends on. -/
structure Settings where
  /-- The SID base of this host's own accounts. -/
  machineSid : Option String := none
  /-- The Windows domain that is meant where none is given. -/
  mappingDomain : Option String := none
  /-- How long a mapping is cached, in seconds. -/
  idTtl : Nat := 600
  /-- How long a name is cached, in seconds. -/
  nameTtl : Nat := 3600
  /-- Mint ids for SIDs that the directory does not know. -/
  mintUnknown : Bool := true
deriving DecidableEq, Repr

namespace Settings

/-- The machine SID; an empty one is none. -/
def machine? (s : Settings) : Option String :=
  s.machineSid.filter (!·.isEmpty)

/-- The mapping domain; an empty one is none. -/
def domain? (s : Settings) : Option String :=
  s.mappingDomain.filter (!·.isEmpty)

def idExpiry (s : Settings) (now : Int) : Expiry :=
  .after now s.idTtl

def nameExpiry (s : Settings) (now : Int) : Expiry :=
  .after now s.nameTtl

end Settings

/-- Settings and collaborators. -/
structure Engine (δ α : Type) where
  settings : Settings
  names : NameService
  directory : Directory.Client δ
  authority : IdAuthority α
  blockSize : Nat

/-- What changes from call to call. -/
structure EngineState (δ α : Type) where
  cache : Cache
  rules : RuleTable
  directory : δ
  allocator : Allocator α

namespace Engine

variable {δ α : Type}

/-- The next id of a kind. -/
def allocate (e : Engine δ α) (kind : IdKind) (s : EngineState δ α) :
    Except Failure UInt32 × EngineState δ α :=
  let (answer, allocator) := s.allocator.allocate e.authority e.blockSize kind
  (answer, { s with allocator })

/-- Stores a rule.  One without a domain gets the mapping domain. -/
def addRule (e : Engine δ α) (rule : Rule) (s : EngineState δ α) :
    Except Failure (EngineState δ α) :=
  (s.rules.add rule e.settings.domain?).map fun rules => { s with rules }

end Engine

/-- A name that is written to the cache for as long as the settings say. -/
def cacheName (settings : Settings) (now : Int) (sid : Sid) (name domain : String)
    (type : AccountType) (cache : Cache) : Cache :=
  cache.putName { sid, name, domain := some domain, type, expiry := settings.nameExpiry now }

/-- What is written for a resolved item: the mapping, and the Windows name too if the
directory gave it. -/
def cacheResolution (settings : Settings) (now : Int) (resolution : Resolution) (sid : Sid)
    (id : UnixId) (unixName : Option String) (direction : Direction) (cache : Cache) : Cache :=
  let cache := cache.putId
    { sid, id, unixName, direction
      windowsDomain := resolution.windowsName.map (·.domain)
      windowsName := resolution.windowsName.map (·.name)
      expiry := resolution.expiry }
  match resolution.source, resolution.windowsName with
  | .directory, some w => cacheName settings now sid w.name w.domain w.type cache
  | _, _ => cache

end IdentityMap

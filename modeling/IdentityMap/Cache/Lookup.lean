/-
Lookups in the mapping cache.

Each lookup picks the earliest written row that answers it and then reads the columns
it needs.  A row that lacks one of them makes the lookup fail with `cacheCorrupt`; it
is not passed over.

A minted id is found even after its time: the caller decides whether to keep it.  Such
an answer says that it is expired, and is given whatever kind of id was asked for.
-/
import IdentityMap.Cache.Row

namespace IdentityMap

/-- The mapping cache. -/
structure Cache where
  ids : List IdRow := []
  names : List NameRow := []
deriving DecidableEq, Repr

/-- A unix id that the cache holds for a SID. -/
structure CachedId where
  id : UnixId
  direction : Direction
  unixName : Option String
  /-- The id was minted here and its row is past its time. -/
  expired : Bool
deriving DecidableEq, Repr

/-- A SID that the cache holds for a unix id. -/
structure CachedSid where
  sid : Sid
  direction : Direction
  windowsName : Option String
  windowsDomain : Option String
deriving DecidableEq, Repr

/-- The name that the cache holds for a SID. -/
structure CachedName where
  name : String
  domain : Option String
  type : AccountType
deriving DecidableEq, Repr

/-- The kind of the cached id answers the request. -/
def CachedId.check (hit : CachedId) (wanted : Wanted) : Except Failure Unit :=
  wanted.check hit.id.kind "SID requested from id cache"

/-- Reads a column that holds a unix id's number. -/
def readNumber (column : Option Int) : Except Failure UInt32 :=
  match word32OfColumn? column with
  | some n => .ok n
  | none => .error (.cacheCorrupt "idmap_cache.pid")

/-- Reads the two columns that hold a SID. -/
def readSid (base : Option String) (rid : Option Int) : Except Failure Sid :=
  match base, word32OfColumn? rid with
  | some base, some rid => .ok { base, rid }
  | _, _ => .error (.cacheCorrupt "sidprefix/rid")

/-- Reads the column that holds an account type. -/
def readType (column : Option Int) : Except Failure AccountType :=
  match column.bind AccountType.ofColumn? with
  | some type => .ok type
  | none => .error (.cacheCorrupt "name_cache.type")

namespace IdRow

/-- The row leads from this SID to a unix id and may be used at `now`. -/
def answersSid (row : IdRow) (sid : Sid) (now : Int) : Bool :=
  row.toUnix == some 1 && row.isAbout sid && row.isUsable now

/-- The row leads from this unix id to a SID and may be used at `now`. -/
def answersId (row : IdRow) (id : UnixId) (now : Int) : Bool :=
  row.toWindows == some 1 && row.number == wordColumn id.number &&
    row.isUser == boolColumn id.kind.isUser && row.isUsable now

/-- A minted id's row is past its time. -/
def isExpired (number : UInt32) (expiration : Option Int) (now : Int) : Bool :=
  isEphemeral number && isPast expiration now && expiration != some Expiry.noExpiry

/-- The unix id in a row. -/
def cachedId (row : IdRow) (now : Int) : Except Failure CachedId := do
  let number ← readNumber row.number
  let isUser ← match row.isUser with
    | some n => pure (n != 0)
    | none => throw (.cacheCorrupt "idmap_cache.is_user")
  pure
    { id := { kind := .ofIsUser isUser, number }
      direction := if flagIsSet row.toWindows then .both else .toUnix
      unixName := row.unixName
      expired := isExpired number row.expiration now }

/-- The SID in a row. -/
def cachedSid (row : IdRow) : Except Failure CachedSid := do
  let sid ← readSid row.base row.rid
  pure
    { sid
      direction := if flagIsSet row.toUnix then .both else .toWindows
      windowsName := row.windowsName
      windowsDomain := row.windowsDomain }

end IdRow

namespace NameRow

/-- The row names this SID and is valid at `now`. -/
def answersSid (row : NameRow) (sid : Sid) (now : Int) : Bool :=
  row.isAbout sid && isLive row.expiration now

/-- The row holds this name and is valid at `now`. -/
def answersName (row : NameRow) (name : String) (domain : Option String) (now : Int) : Bool :=
  row.isNamed name domain && isLive row.expiration now

/-- The name in a row. -/
def cachedName (row : NameRow) : Except Failure CachedName := do
  let name ← match row.name with
    | some name => pure name
    | none => throw (.cacheCorrupt "name_cache.name")
  let type ← readType row.type
  pure { name, domain := row.domain, type }

/-- The SID in a row, with the type of its account. -/
def cachedAccount (row : NameRow) : Except Failure (Sid × AccountType) := do
  let sid ← readSid row.base row.rid
  let type ← readType row.type
  pure (sid, type)

end NameRow

namespace Cache

/-- The row that leads from a SID to a unix id. -/
def idRow? (cache : Cache) (sid : Sid) (now : Int) : Option IdRow :=
  cache.ids.find? (·.answersSid sid now)

/-- The row that leads from a unix id to a SID. -/
def sidRow? (cache : Cache) (id : UnixId) (now : Int) : Option IdRow :=
  cache.ids.find? (·.answersId id now)

/-- The row that names a SID. -/
def nameRow? (cache : Cache) (sid : Sid) (now : Int) : Option NameRow :=
  cache.names.find? (·.answersSid sid now)

/-- The first row that holds a name. -/
def accountRow? (cache : Cache) (name : String) (domain : Option String) (now : Int) :
    Option NameRow :=
  cache.names.find? (·.answersName name domain now)

/-- The unix id of a SID.  The kind is checked only while the row is valid. -/
def idOf (cache : Cache) (sid : Sid) (wanted : Wanted) (now : Int) : Except Failure CachedId :=
  match cache.idRow? sid now with
  | none => .error .notFound
  | some row => do
    let hit ← row.cachedId now
    if hit.expired then pure hit
    else
      hit.check wanted
      pure hit

/-- The SID of a unix id. -/
def sidOf (cache : Cache) (id : UnixId) (now : Int) : Except Failure CachedSid :=
  match cache.sidRow? id now with
  | none => .error .notFound
  | some row => row.cachedSid

/-- The name of a SID. -/
def nameOf (cache : Cache) (sid : Sid) (now : Int) : Except Failure CachedName :=
  match cache.nameRow? sid now with
  | none => .error .notFound
  | some row => row.cachedName

/-- The SID with a name, and what kind of account it is.  Without a domain any cached
domain will do. -/
def accountNamed (cache : Cache) (name : String) (domain : Option String) (now : Int) :
    Except Failure (Sid × AccountType) :=
  match cache.accountRow? name domain now with
  | none => .error .notFound
  | some row => row.cachedAccount

end Cache
end IdentityMap

/-
From unix ids to SIDs.

Each item is settled by itself: reserved identities, the cache, then the unix-to-Windows
rules, whose destinations are looked up one name at a time.  An account that no rule maps
gets its local SID under the machine SID.  A minted id that the cache does not know maps
to nothing, because such ids only come into being in the other direction.
-/
import IdentityMap.LocalAccount
import IdentityMap.Mapping.Engine

namespace IdentityMap.IdToSid

variable {δ α : Type}

/-- The SID of a Windows name: reserved names first, then the name cache, then the
directory.  With an empty domain any cached domain will do. -/
def resolveName (client : Directory.Client δ) (cache : Cache) (now : Int) (name domain : String)
    (s : δ) : Except Failure NamedAccount × δ :=
  match WellKnown.ofName name with
  | some entry => (.ok { sid := entry.sid, type := entry.type, source := .cached }, s)
  | none =>
    match cache.accountNamed name (if domain.isEmpty then none else some domain) now with
    | .ok (sid, type) => (.ok { sid, type, source := .cached }, s)
    | .error .notFound =>
      let (answer, s) := Directory.lookupOne client (.ofName name domain) s
      (answer.map fun entry =>
        { sid := entry.sid, type := entry.type, source := .directory }, s)
    | .error failure => (.error failure, s)

/-- The local SID of an account, or `denied` if no machine SID is configured. -/
def localSid (settings : Settings) (id : UnixId) : Except Failure Sid :=
  match settings.machine? with
  | none => .error .denied
  | some machine => LocalAccount.encode machine id

/-- An account without a Windows counterpart gets its local SID. -/
def settleLocal (settings : Settings) (id : UnixId) : Item :=
  match localSid settings id with
  | .ok sid =>
    { answer := { id := some (.sid sid), direction := .both, failure := none }
      state := .resolved
        { source := .machine, windowsName := none, superseded := none, expiry := .never } }
  | .error failure => .failed failure

/-- The item fails, but carries the account's local SID if there is one. -/
def failWithLocal (settings : Settings) (id : UnixId) (failure : Failure) : Item :=
  .fail { id := (localSid settings id).toOption.map .sid } failure

/-- What the rules make of an account with this unix name. -/
def applyRules (e : Engine δ α) (cache : Cache) (rules : RuleTable) (now : Int) (id : UnixId)
    (unixName : String) (s : δ) : Item × δ :=
  match Rule.mapToWindows rules e.settings.domain? unixName id.kind
      (resolveName e.directory cache now) s with
  | (.ok found, s) =>
    ({ answer :=
        { id := some (.sid found.account.sid), direction := found.direction, failure := none,
          name := some found.windowsName, domain := some found.windowsDomain }
       state := .resolved
        { source := if found.account.source = .directory then .directory else .cached
          windowsName := some
            { name := found.windowsName, domain := found.windowsDomain,
              type := found.account.type }
          superseded := none
          expiry := e.settings.idExpiry now } }, s)
  | (.error .notFound, s) => (settleLocal e.settings id, s)
  | (.error failure, s) => (failWithLocal e.settings id failure, s)

/-- An item that neither the reserved identities nor the cache answer. -/
def settleUncached (e : Engine δ α) (cache : Cache) (rules : RuleTable) (now : Int)
    (request : Request) (id : UnixId) (s : δ) : Item × δ :=
  if isEphemeral id.number || request.cacheOnly then (.failed .denied, s)
  else
    match request.givenName? with
    | some name => applyRules e cache rules now id name s
    | none =>
      match e.names.nameOf id.kind id.number with
      | .ok name => applyRules e cache rules now id name s
      | .error .notFound => (settleLocal e.settings id, s)
      | .error failure => (failWithLocal e.settings id failure, s)

/-- Settles one item. -/
def resolve (e : Engine δ α) (cache : Cache) (rules : RuleTable) (now : Int) (request : Request)
    (s : δ) : Item × δ :=
  match request.id with
  | .sid _ => (.failed (.unsupported "SID as id to SID input"), s)
  | .unix id =>
    if request.wanted ≠ .sid then
      (.failed (.unsupported (id.kind.text ++ " to unix id")), s)
    else
      match WellKnown.ofId id with
      | some entry =>
        ({ answer :=
            { id := some (.sid entry.sid), direction := entry.direction, failure := none,
              name := some entry.name }
           state := .cacheHit }, s)
      | none =>
        match cache.sidOf id now with
        | .ok hit =>
          ({ answer :=
              { id := some (.sid hit.sid), direction := hit.direction, failure := none,
                name := hit.windowsName, domain := hit.windowsDomain }
             state := .cacheHit }, s)
        | .error .notFound => settleUncached e cache rules now request id s
        | .error failure => (.failed failure, s)

/-- The unix name that is written with a mapping: the one that came with the request, else
the account's own. -/
def recordedName (names : NameService) (request : Request) (id : UnixId) : Option String :=
  request.name.or (names.nameOf id.kind id.number).toOption

/-- Writes a resolved item to the cache. -/
def record (settings : Settings) (names : NameService) (now : Int) (request : Request)
    (item : Item) (cache : Cache) : Cache :=
  match item.state, request.id, item.answer.sid? with
  | .resolved resolution, .unix id, some sid =>
    if item.answer.isSuccess then
      cacheResolution settings now resolution sid id (recordedName names request id)
        item.answer.direction cache
    else cache
  | _, _, _ => cache

end IdToSid

namespace Engine

variable {δ α : Type}

/-- The SID of one unix id; what was worked out is cached at once. -/
def mapId (e : Engine δ α) (now : Int) (request : Request) (s : EngineState δ α) :
    Answer × EngineState δ α :=
  let (item, directory) := IdToSid.resolve e s.cache s.rules now request s.directory
  let cache := IdToSid.record e.settings e.names now request item s.cache
  (item.answer, { s with cache, directory })

/-- The SIDs of a batch of unix ids: one answer for each request, in order. -/
def mapIds (e : Engine δ α) (now : Int) :
    List Request → EngineState δ α → List Answer × EngineState δ α
  | [], s => ([], s)
  | request :: rest, s =>
    let (answer, s) := e.mapId now request s
    let (answers, s) := e.mapIds now rest s
    (answer :: answers, s)

end Engine
end IdentityMap

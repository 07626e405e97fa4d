/-
From SIDs to unix ids.

A batch is resolved in two passes.  The first settles what the reserved identities and
the cache can answer, and finds the Windows name of the others if it is already known.
One directory round then looks up the names that are missing, each SID once.  The second
pass applies the name rules; where they say nothing, the item gets the local account
behind its SID or an id that is minted for it.  Only then are the results written back.

An expired minted id is kept aside as a fallback: it is preferred over minting another.

A batch happens at one time.  The clock is taken to be read once for all of it, and not again
for each lookup in the cache, for the second pass and for each write.
-/
import IdentityMap.LocalAccount
import IdentityMap.Mapping.Engine

namespace IdentityMap.SidToId

/-! ### First pass -/

/-- The Windows name of a SID, as far as it is known without the directory.  A name that
came with the request is trusted if the request says what kind of account it is. -/
def findName (cache : Cache) (now : Int) (request : Request) (sid : Sid)
    (fallback : Fallback) : Item :=
  match request.givenName?, request.wanted.accountType? with
  | some name, some type =>
    { state := .awaitsRules { name, domain := request.domain.getD "", type } .cached fallback }
  | _, _ =>
    match WellKnown.ofSid sid with
    | some entry =>
      { state := .awaitsRules { name := entry.name, domain := "", type := entry.type } .cached
          fallback }
    | none =>
      match cache.nameOf sid now with
      | .ok hit =>
        { state := .awaitsRules
            { name := hit.name, domain := hit.domain.getD "", type := hit.type } .cached fallback }
      | .error .notFound => { state := .awaitsDirectory fallback }
      | .error e => .failed e

/-- An item that the cache answers. -/
def cacheAnswer (request : Request) (hit : CachedId) : Item :=
  match hit.check request.wanted with
  | .error e => .failed e
  | .ok () =>
    { answer :=
        { id := some (.unix hit.id), direction := hit.direction, failure := none,
          name := hit.unixName }
      state := .cacheHit }

/-- What the cache makes of a SID that is not reserved. -/
def searchCache (cache : Cache) (now : Int) (request : Request) (sid : Sid) : Item :=
  match cache.idOf sid request.wanted now with
  | .ok hit =>
    if !hit.expired || request.cacheOnly then cacheAnswer request hit
    else findName cache now request sid (some hit.id)
  | .error .notFound =>
    if request.cacheOnly then .nobody request.wanted.defaultKind .notFound
    else findName cache now request sid none
  | .error e => .failed e

/-- Reserved identities, the cache, and names that are already known. -/
def firstPass (cache : Cache) (now : Int) (request : Request) : Item :=
  match request.id with
  | .unix id => .failed (.badSid id.text)
  | .sid sid =>
    if request.wanted = .sid then .failed (.unsupported "SID to SID")
    else
      match WellKnown.idOf sid request.wanted with
      | some (.mapped id direction) =>
        { answer := { id := some (.unix id), direction, failure := none }, state := .cacheHit }
      | some .unmapped => .failed .notFound
      | none => searchCache cache now request sid

/-! ### Directory round -/

/-- The SID of an item that waits for the directory. -/
def awaitedSid? (request : Request) (item : Item) : Option Sid :=
  match item.state, request.id with
  | .awaitsDirectory _, .sid sid => some sid
  | _, _ => none

/-- The SIDs to look up, each once, in the order in which they first occur. -/
def awaitedSids (requests : List Request) (items : List Item) : List Sid :=
  ((requests.zip items).filterMap fun (request, item) => awaitedSid? request item).foldl
    (fun sids sid => if sids.contains sid then sids else sids ++ [sid]) []

/-- What the directory said about each SID. -/
abbrev Found := List (Sid × Except Failure Directory.Entry)

/-- What the directory said about the SID of a request. -/
def answerFor (found : Found) (request : Request) : Option (Except Failure Directory.Entry) :=
  request.id.sid?.bind fun sid => (found.find? (·.1 == sid)).map (·.2)

/-- Looks up the SIDs whose names are missing; without any, the directory is not asked. -/
def directoryRound {δ : Type} (client : Directory.Client δ) (requests : List Request)
    (items : List Item) (s : δ) : Found × δ :=
  let sids := awaitedSids requests items
  if sids.isEmpty then ([], s)
  else
    let (answers, s) := Directory.lookupSids client sids s
    (sids.zip answers, s)

/-! ### Second pass -/

variable {δ α : Type}

/-- The id that an item ends up with when nothing else maps it: the expired one of the
right kind if there is one, and else the batch's or a new one. -/
def obtainId (e : Engine δ α) (sid : Sid) (kind : IdKind) (fallback : Fallback)
    (m : Mint α) : Except Failure UInt32 × Mint α :=
  match fallback with
  | some id =>
    if id.kind = kind then (.ok id.number, m.reuse sid id)
    else m.obtain e.authority e.blockSize sid kind
  | none => m.obtain e.authority e.blockSize sid kind

/-- The item gets an id of its own.  `answer` is what it would be answered if that fails. -/
def mintItem (e : Engine δ α) (now : Int) (sid : Sid) (kind : IdKind) (source : NameSource)
    (name : Option WindowsName) (fallback : Fallback) (answer : Answer) (m : Mint α) :
    Item × Mint α :=
  match obtainId e sid kind fallback m with
  | (.error failure, m) => (.fail answer failure, m)
  | (.ok number, m) =>
    ({ answer :=
        { id := some (.unix { kind, number }), direction := .both, failure := none,
          domain := answer.domain }
       state := .resolved
        { source, windowsName := name, superseded := none,
          expiry := e.settings.idExpiry now } }, m)

/-- An item whose name could not be found, for the reason given.  Under the machine SID
it may still be a local account; else, if the directory just does not know it, it gets an
id where that is allowed.  It is taken for a user unless a group was asked for. -/
def settleUnknown (e : Engine δ α) (now : Int) (request : Request) (sid : Sid)
    (reason : Failure) (fallback : Fallback) (m : Mint α) : Item × Mint α :=
  let kind := request.wanted.defaultKind
  let unknown : Unit → Item × Mint α := fun _ =>
    if reason ≠ .notFound ∨ !e.settings.mintUnknown then (.nobody kind reason, m)
    else mintItem e now sid kind .machine none fallback (.nobody kind .notFound) m
  if e.settings.machine?.any sid.hasBase then
    match LocalAccount.decode sid request.wanted with
    | .ok id =>
      ({ answer := { id := some (.unix id), direction := .both, failure := none }
         state := .resolved
          { source := .machine, windowsName := none, superseded := none, expiry := .never } }, m)
    | .error .notFound => unknown ()
    | .error failure => (.nobody kind failure, m)
  else unknown ()

/-- An item whose Windows name is known: the rules decide, and an account they say
nothing about gets an id. -/
def applyRules (e : Engine δ α) (rules : RuleTable) (now : Int) (request : Request) (sid : Sid)
    (name : WindowsName) (source : NameSource) (fallback : Fallback) (m : Mint α) :
    Item × Mint α :=
  match name.type.verify request.wanted with
  | .error failure => (.nobody request.wanted.defaultKind failure, m)
  | .ok kind =>
    match Rule.mapToUnix rules e.names e.settings.domain? name.name (some name.domain) kind with
    | .ok found =>
      ({ answer :=
          { id := some (.unix found.id), direction := found.direction, failure := none,
            name := some found.unixName, domain := some name.domain }
         state := .resolved
          { source, windowsName := some name, superseded := fallback,
            expiry := e.settings.idExpiry now } }, m)
    | .error .notFound =>
      mintItem e now sid kind source (some name) fallback { domain := some name.domain } m
    | .error failure => (.nobody kind failure, m)

/-- What the directory said, the rules, local accounts and minting.  Items that are
already settled stay as they are. -/
def secondPass (e : Engine δ α) (rules : RuleTable) (now : Int) (request : Request) (item : Item)
    (found : Option (Except Failure Directory.Entry)) (m : Mint α) : Item × Mint α :=
  match request.id with
  | .unix _ => (item, m)
  | .sid sid =>
    match item.state with
    | .awaitsRules name source fallback =>
      applyRules e rules now request sid name source fallback m
    | .awaitsDirectory fallback =>
      match found with
      | some (.ok entry) =>
        applyRules e rules now request sid
          { name := entry.name, domain := entry.domain, type := entry.type } .directory fallback m
      | some (.error reason) => settleUnknown e now request sid reason fallback m
      | none => settleUnknown e now request sid .notFound fallback m
    | _ => (item, m)

/-! ### Writing back -/

/-- Writes a resolved item to the cache.  A minted id that was replaced by one of another
origin no longer answers for the SID; it still leads back to it. -/
def record (settings : Settings) (now : Int) (request : Request) (item : Item)
    (cache : Cache) : Cache :=
  match item.state, request.id, item.answer.unix? with
  | .resolved resolution, .sid sid, some id =>
    if item.answer.isSuccess then
      let cache :=
        match resolution.superseded with
        | some old => if isEphemeral id.number then cache else cache.supersede sid old.kind
        | none => cache
      cacheResolution settings now resolution sid id item.answer.name item.answer.direction cache
    else cache
  | _, _, _ => cache

/-! ### Batches -/

/-- The second pass over all items, in order. -/
def secondPasses (e : Engine δ α) (rules : RuleTable) (now : Int) (found : Found) :
    List (Request × Item) → Mint α → List Item × Mint α
  | [], m => ([], m)
  | (request, item) :: rest, m =>
    let (item, m) := secondPass e rules now request item (answerFor found request) m
    let (items, m) := secondPasses e rules now found rest m
    (item :: items, m)

/-- Writes all items back, in order. -/
def recordAll (settings : Settings) (now : Int) (items : List (Request × Item))
    (cache : Cache) : Cache :=
  items.foldl (fun cache (request, item) => record settings now request item cache) cache

end SidToId

namespace Engine

variable {δ α : Type}

/-- The unix ids of a batch of SIDs: one answer for each request, in order. -/
def mapSids (e : Engine δ α) (now : Int) (requests : List Request) (s : EngineState δ α) :
    List Answer × EngineState δ α :=
  let items := requests.map (SidToId.firstPass s.cache now)
  let (found, directory) := SidToId.directoryRound e.directory requests items s.directory
  let (items, m) := SidToId.secondPasses e s.rules now found (requests.zip items)
    { allocator := s.allocator }
  let cache := SidToId.recordAll e.settings now (requests.zip items) s.cache
  (items.map (·.answer), { s with cache, directory, allocator := m.allocator })

end Engine
end IdentityMap

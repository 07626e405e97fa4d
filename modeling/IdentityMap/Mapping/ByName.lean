/-
Mapping by name: from a Windows account name to a unix id, and from a unix id to the name
of its Windows account.
-/
import IdentityMap.Mapping.IdToSid
import IdentityMap.Mapping.SidToId

namespace IdentityMap.Engine

variable {δ α : Type}

/-- The domain that a name is looked up in: the one given, else the mapping domain. -/
def domainFor (e : Engine δ α) (domain : Option String) : String :=
  ((domain.filter (!·.isEmpty)).or e.settings.domain?).getD ""

/-- The SID and the unix id of a Windows account.  A name that the directory gave is
cached even if the account is not of the kind that was asked for. -/
def mapName (e : Engine δ α) (now : Int) (name : String) (domain : Option String)
    (wanted : Wanted) (s : EngineState δ α) :
    Except Failure (Sid × Answer) × EngineState δ α :=
  if name.isEmpty then
    let what :=
      match domain with
      | some d => "domain '" ++ d ++ "' without a name"
      | none => "empty name"
    (.error (.badArgument what), s)
  else
    let domain := e.domainFor domain
    match IdToSid.resolveName e.directory s.cache now name domain s.directory with
    | (.error failure, directory) => (.error failure, { s with directory })
    | (.ok account, directory) =>
      let cache :=
        if account.source = .directory then
          cacheName e.settings now account.sid name domain account.type s.cache
        else s.cache
      let s := { s with cache, directory }
      match account.type.verify wanted with
      | .error failure => (.error failure, s)
      | .ok kind =>
        let request : Request :=
          { id := .sid account.sid, wanted := kind.wanted, name := some name,
            domain := some domain }
        let (answers, s) := e.mapSids now [request] s
        (.ok (account.sid, answers.headD {}), s)

/-- The Windows name of a SID that was mapped without one: reserved identities, the name
cache, then the directory, but the directory is not asked about this host's own SIDs. -/
def nameSid (e : Engine δ α) (now : Int) (sid : Sid) (answer : Answer) (s : EngineState δ α) :
    Answer × EngineState δ α :=
  match WellKnown.ofSid sid with
  | some entry => ({ answer with name := some entry.name }, s)
  | none =>
    match s.cache.nameOf sid now with
    | .ok hit => ({ answer with name := some hit.name, domain := hit.domain }, s)
    | .error .notFound =>
      if e.settings.machine?.any sid.hasBase then (answer, s)
      else
        match Directory.lookupOne e.directory (.ofSid sid) s.directory with
        | (.ok entry, directory) =>
          ({ answer with name := some entry.name, domain := some entry.domain },
            { s with
              directory
              cache := cacheName e.settings now sid entry.name entry.domain entry.type s.cache })
        | (.error _, directory) => (answer, { s with directory })
    | .error _ => (answer, s)

/-- The SID of a unix id, with its Windows name if it has one. -/
def nameId (e : Engine δ α) (now : Int) (id : UnixId) (s : EngineState δ α) :
    Answer × EngineState δ α :=
  let (answer, s) := e.mapId now { id := .unix id, wanted := .sid } s
  match answer.isSuccess, answer.name, answer.sid? with
  | true, none, some sid => e.nameSid now sid answer s
  | _, _, _ => (answer, s)

end IdentityMap.Engine

/-
Evaluating name rules for one lookup.

The candidates are tried in order.  An empty destination denies the mapping; a literal
destination is looked up and decides, found or not; a `*` stands for the name that is
being mapped, and if that is not found the next candidate is tried.  Running out of
candidates is `notFound`, which lets the caller mint an id or fall back to a local SID.
-/
import IdentityMap.Account.NameService
import IdentityMap.Rule.Table

namespace IdentityMap

/-- Where a Windows name came from.  Only names from the directory are worth caching. -/
inductive NameSource where
  /-- The request, the reserved identities or the cache. -/
  | cached
  | directory
  /-- The host's own accounts, which have no Windows name. -/
  | machine
deriving DecidableEq, Repr

/-- What a Windows name stands for, and who said so. -/
structure NamedAccount where
  sid : Sid
  type : AccountType
  source : NameSource
deriving DecidableEq, Repr

/-- What the rules make of a Windows account. -/
structure UnixMatch where
  id : UnixId
  unixName : String
  direction : Direction
deriving DecidableEq, Repr

/-- What the rules make of a unix name. -/
structure WindowsMatch where
  account : NamedAccount
  windowsName : String
  windowsDomain : String
  direction : Direction
deriving DecidableEq, Repr

namespace Rule

/-- Tries the candidates for the Windows name `name`. -/
def tryUnix (names : NameService) (kind : IdKind) (name : String) :
    List UnixCandidate → Except Failure UnixMatch
  | [] => .error .notFound
  | candidate :: rest =>
    let found (unixName : String) (number : UInt32) : UnixMatch :=
      { id := { kind, number }, unixName
        direction := if applies candidate.toWindowsOrder then .both else .toUnix }
    if isEmptyName candidate.unixName then .error .denied
    else if isWildcard candidate.unixName then
      match names.idOf kind name with
      | .ok number => .ok (found name number)
      | .error .notFound => tryUnix names kind name rest
      | .error e => .error e
    else
      match names.idOf kind candidate.unixName with
      | .ok number => .ok (found candidate.unixName number)
      | .error .notFound => .error .denied
      | .error e => .error e

/-- The domain is the mapping domain, in any ASCII case.  An empty mapping domain is none. -/
def isDefaultDomain (mappingDomain : Option String) (domain : String) : Bool :=
  mappingDomain.any fun d => !d.isEmpty && sameFolded d domain

/-- The unix id that the rules give a Windows account. -/
def mapToUnix (table : RuleTable) (names : NameService) (mappingDomain : Option String)
    (name : String) (domain : Option String) (kind : IdKind) : Except Failure UnixMatch :=
  let domain := domain.getD ""
  tryUnix names kind name
    (table.unixCandidates kind.isUser name domain (isDefaultDomain mappingDomain domain))

/-- The domain in which a destination is looked up: the candidate's own, else the mapping
domain, else none at all if the name is reserved. -/
def destinationDomain (mappingDomain : Option String) (name : String)
    (domain : Option String) : Except Failure String :=
  match domain.filter (!·.isEmpty), mappingDomain.filter (!·.isEmpty) with
  | some d, _ => .ok d
  | none, some d => .ok d
  | none, none => if (WellKnown.ofName name).isSome then .ok "" else .error (.noDomain name)

/-- The account answers for an id of this kind. -/
def checkKind (kind : IdKind) (account : NamedAccount) : Except Failure NamedAccount :=
  match kind, account.type with
  | .uid, .group => .error .notUser
  | .gid, .user => .error .notGroup
  | _, _ => .ok account

/-- Tries the candidates for the unix name `unixName`.  `resolve` looks up one Windows
name in its domain; it may keep a state, which is carried from one call to the next. -/
def tryWindows {σ : Type} (mappingDomain : Option String) (unixName : String) (kind : IdKind)
    (resolve : String → String → σ → Except Failure NamedAccount × σ) :
    List WindowsCandidate → σ → Except Failure WindowsMatch × σ
  | [], s => (.error .notFound, s)
  | candidate :: rest, s =>
    if isEmptyName candidate.windowsName then (.error .denied, s)
    else
      let isSelf := isWildcard candidate.windowsName
      let name := if isSelf then unixName else candidate.windowsName
      match destinationDomain mappingDomain name candidate.windowsDomain with
      | .error e => (.error e, s)
      | .ok domain =>
        let (answer, s) := resolve name domain s
        match answer.bind (checkKind kind) with
        | .ok account =>
          (.ok
            { account, windowsName := name, windowsDomain := domain
              direction := if applies candidate.toUnixOrder then .both else .toWindows }, s)
        | .error e =>
          if isSelf && (e = .notFound || e = .notUser || e = .notGroup) then
            tryWindows mappingDomain unixName kind resolve rest s
          else (.error (if e = .notFound then .denied else e), s)

/-- The Windows account that the rules give a unix name. -/
def mapToWindows {σ : Type} (table : RuleTable) (mappingDomain : Option String)
    (unixName : String) (kind : IdKind)
    (resolve : String → String → σ → Except Failure NamedAccount × σ) (s : σ) :
    Except Failure WindowsMatch × σ :=
  tryWindows mappingDomain unixName kind resolve
    (table.windowsCandidates kind.isUser unixName) s

end Rule
end IdentityMap

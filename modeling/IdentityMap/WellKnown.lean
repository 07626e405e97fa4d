/-
The table of reserved Windows identities.

Most of them have a name and no unix id: they are recognised and shown, but
mapping one ends with "not found" instead of falling through to rules or to an
ephemeral id.
-/
import IdentityMap.Identity

namespace IdentityMap

/-- A reserved identity. -/
structure WellKnown where
  base : String
  rid : UInt32
  name : String
  isUser : Bool
  /-- Absent for identities that are recognised but never mapped. -/
  number : Option UInt32
  direction : Direction
deriving DecidableEq, Repr

namespace WellKnown

def creatorOwnerUid : UInt32 := 0x80000000
def localSystemGid : UInt32 := 0x80000000
def creatorGroupGid : UInt32 := 0x80000001

/-- The highest uid and the highest gid that the table holds. -/
def maxNumber : IdKind → UInt32
  | .uid => creatorOwnerUid
  | .gid => creatorGroupGid

def sid (entry : WellKnown) : Sid :=
  { base := entry.base, rid := entry.rid }

def kind (entry : WellKnown) : IdKind :=
  .ofIsUser entry.isUser

def type (entry : WellKnown) : AccountType :=
  .ofIsUser entry.isUser

private def unmapped (base : String) (rid : UInt32) (name : String) (isUser : Bool) : WellKnown :=
  { base, rid, name, isUser, number := none, direction := .both }

private def mapped (base : String) (rid : UInt32) (name : String) (isUser : Bool)
    (number : UInt32) : WellKnown :=
  { base, rid, name, isUser, number := some number, direction := .both }

/-- The reserved identities, in the order in which they are searched. -/
def table : List WellKnown := [
  unmapped "S-1-1" 0 "Everyone" false,
  mapped "S-1-3" 0 "Creator Owner" true creatorOwnerUid,
  mapped "S-1-3" 1 "Creator Group" false creatorGroupGid,
  unmapped "S-1-3" 2 "Creator Owner Server" true,
  unmapped "S-1-3" 3 "Creator Group Server" false,
  unmapped "S-1-5" 1 "Dialup" false,
  unmapped "S-1-5" 2 "Network" false,
  unmapped "S-1-5" 3 "Batch" false,
  unmapped "S-1-5" 4 "Interactive" false,
  unmapped "S-1-5" 6 "Service" false,
  mapped "S-1-5" 7 "Anonymous Logon" false nobodyId,
  unmapped "S-1-5" 8 "Proxy" false,
  unmapped "S-1-5" 9 "Enterprise Domain Controllers" false,
  unmapped "S-1-5" 10 "Self" false,
  unmapped "S-1-5" 11 "Authenticated Users" false,
  unmapped "S-1-5" 12 "Restricted Code" false,
  unmapped "S-1-5" 13 "Terminal Server User" false,
  unmapped "S-1-5" 14 "Remote Interactive Logon" false,
  unmapped "S-1-5" 15 "This Organization" false,
  mapped "S-1-5" 18 "Local System" false localSystemGid,
  unmapped "S-1-5" 19 "Local Service" false,
  unmapped "S-1-5" 20 "Network Service" false,
  unmapped "S-1-5" 1000 "Other Organization" false,
  unmapped "S-1-5-64" 21 "Digest Authentication" false,
  unmapped "S-1-5-64" 10 "NTLM Authentication" false,
  unmapped "S-1-5-64" 14 "SChannel Authentication" false]

/-- The entry stands for this SID, in any ASCII case of its base. -/
def isFor (entry : WellKnown) (sid : Sid) : Bool :=
  entry.rid == sid.rid && sid.hasBase entry.base

/-- What the table says about the unix id of a SID. -/
inductive Answer where
  | mapped (id : UnixId) (direction : Direction)
  /-- Reserved, and without a unix id on purpose. -/
  | unmapped
deriving DecidableEq, Repr

/-- The unix id of a reserved SID.  Entries of a kind that does not answer the request
are passed over, as are entries that hold only from unix to Windows; `none` lets
resolution go on as for any other SID. -/
def idOf (sid : Sid) (wanted : Wanted) : Option Answer :=
  (table.filter (·.isFor sid)).findSome? fun entry =>
    match entry.number with
    | none => some .unmapped
    | some number =>
      if entry.direction.isToUnix && wanted.admits entry.kind then
        some (.mapped { kind := entry.kind, number } entry.direction)
      else none

/-- The reserved identity that a unix id maps back to. -/
def ofId (id : UnixId) : Option WellKnown :=
  table.find? fun entry =>
    entry.number == some id.number && entry.kind == id.kind && entry.direction.isToWindows

/-- The reserved identity with this name, in any ASCII case. -/
def ofName (name : String) : Option WellKnown :=
  table.find? fun entry => sameFolded entry.name name

/-- The reserved identity behind a SID, whether it is mapped or not. -/
def ofSid (sid : Sid) : Option WellKnown :=
  table.find? (·.isFor sid)

end WellKnown
end IdentityMap

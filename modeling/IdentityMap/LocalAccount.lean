/-
SIDs of accounts that exist only on this host.

They stand under the machine SID: a user at its uid plus 1000, a group at its gid
plus 2^31.  Rids below 1000 belong to neither.
-/
import IdentityMap.Identity

namespace IdentityMap.LocalAccount

/-- The rid of uid 0. -/
def uidBase : UInt32 := 1000

/-- The rid of gid 0. -/
def gidBase : UInt32 := ephemeralMin

/-- The SID of a local account, or `denied` if the rid space has no room for the id. -/
def encode (machine : String) (id : UnixId) : Except Failure Sid :=
  match id.kind with
  | .uid =>
    if id.number < gidBase - uidBase then .ok { base := machine, rid := id.number + uidBase }
    else .error .denied
  | .gid =>
    if id.number < gidBase then .ok { base := machine, rid := id.number + gidBase }
    else .error .denied

/-- The account behind a rid. -/
def ofRid? (rid : UInt32) : Option UnixId :=
  if gidBase ≤ rid then some { kind := .gid, number := rid - gidBase }
  else if uidBase ≤ rid then some { kind := .uid, number := rid - uidBase }
  else none

/-- The local account behind a SID that is known to stand under the machine SID. -/
def decode (sid : Sid) (wanted : Wanted) : Except Failure UnixId :=
  match ofRid? sid.rid with
  | none => .error .notFound
  | some id => (wanted.check id.kind "SID requested as unix id").map fun _ => id

end IdentityMap.LocalAccount

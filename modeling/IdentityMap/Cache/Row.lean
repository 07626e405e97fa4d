/-
The rows of the mapping cache.

Two tables: one row per mapping between a SID and a unix id, and one row per SID whose
Windows name is known.  Every column may be empty, because the tables outlive the code
that wrote them; what a lookup needs of a row is checked when the row is read.

A mapping row is valid in the direction whose flag is 1, and a flag that is not set is
empty.  So the keys bind a row only in the directions in which it is valid: a SID has
one row that leads to a unix id, a unix id has one row that leads to a SID.
-/
import IdentityMap.Cache.Expiry
import IdentityMap.Identity
import IdentityMap.Table

namespace IdentityMap

/-- A row of the id table. -/
structure IdRow where
  base : Option String
  rid : Option Int
  windowsDomain : Option String
  windowsName : Option String
  number : Option Int
  unixName : Option String
  isUser : Option Int
  toUnix : Option Int
  toWindows : Option Int
  expiration : Option Int
deriving DecidableEq, Repr

/-- A row of the name table. -/
structure NameRow where
  base : Option String
  rid : Option Int
  name : Option String
  domain : Option String
  type : Option Int
  expiration : Option Int
deriving DecidableEq, Repr

/-- A mapping between a SID and a unix id, as the engine writes it. -/
structure IdMapping where
  sid : Sid
  windowsDomain : Option String
  windowsName : Option String
  id : UnixId
  unixName : Option String
  direction : Direction
  expiry : Expiry
deriving DecidableEq, Repr

/-- The Windows name of a SID, as the engine writes it. -/
structure NameMapping where
  sid : Sid
  name : String
  domain : Option String
  type : AccountType
  expiry : Expiry
deriving DecidableEq, Repr

/-- The column of a number of 32 bits. -/
def wordColumn (n : UInt32) : Option Int :=
  some n.toNat

/-- The column of a yes or no. -/
def boolColumn (b : Bool) : Option Int :=
  some (if b then 1 else 0)

/-- The column of a direction flag: 1, or empty. -/
def flagColumn (set : Bool) : Option Int :=
  if set then some 1 else none

/-- Any number but 0 counts as a set flag. -/
def flagIsSet (column : Option Int) : Bool :=
  match column with
  | some n => n != 0
  | none => false

/-- The number of 32 bits in a column. -/
def word32OfColumn? : Option Int → Option UInt32
  | some n => if 0 ≤ n ∧ n < 0x100000000 then some (UInt32.ofNat n.toNat) else none
  | none => none

theorem word32OfColumn?_wordColumn (n : UInt32) : word32OfColumn? (wordColumn n) = some n := by
  have h := n.toNat_lt
  simp [word32OfColumn?, wordColumn]
  omega

theorem flagIsSet_flagColumn (set : Bool) : flagIsSet (flagColumn set) = set := by
  cases set <;> rfl

namespace IdMapping

/-- The row that holds a mapping. -/
def row (m : IdMapping) : IdRow :=
  { base := some m.sid.base
    rid := wordColumn m.sid.rid
    windowsDomain := m.windowsDomain
    windowsName := m.windowsName
    number := wordColumn m.id.number
    unixName := m.unixName
    isUser := boolColumn m.id.kind.isUser
    toUnix := flagColumn m.direction.isToUnix
    toWindows := flagColumn m.direction.isToWindows
    expiration := some m.expiry.column }

end IdMapping

namespace NameMapping

/-- The row that holds a name. -/
def row (m : NameMapping) : NameRow :=
  { base := some m.sid.base
    rid := wordColumn m.sid.rid
    name := some m.name
    domain := m.domain
    type := some m.type.column
    expiration := some m.expiry.column }

end NameMapping

namespace IdRow

/-- Two rows lead from the same SID to a unix id. -/
def sameSidKey (a b : IdRow) : Bool :=
  Table.sameKey a.base b.base && Table.sameKey a.rid b.rid && Table.sameKey a.toUnix b.toUnix

/-- Two rows lead from the same unix id to a SID. -/
def sameIdKey (a b : IdRow) : Bool :=
  Table.sameKey a.number b.number && Table.sameKey a.isUser b.isUser &&
    Table.sameKey a.toWindows b.toWindows

/-- The two rows cannot stand in one table. -/
def collides (a b : IdRow) : Bool :=
  sameSidKey a b || sameIdKey a b

/-- The row is about this SID. -/
def isAbout (row : IdRow) (sid : Sid) : Bool :=
  row.base == some sid.base && row.rid == wordColumn sid.rid

/-- The row holds an id that was minted here. -/
def isMinted (row : IdRow) : Bool :=
  match row.number with
  | some n => (ephemeralMin.toNat : Int) ≤ n
  | none => false

/-- Whether a lookup at `now` may use the row: minted ids are found even when stale. -/
def isUsable (row : IdRow) (now : Int) : Bool :=
  row.isMinted || isLive row.expiration now

end IdRow

namespace NameRow

/-- The two rows cannot stand in one table: they name the same SID. -/
def collides (a b : NameRow) : Bool :=
  Table.sameKey a.base b.base && Table.sameKey a.rid b.rid

/-- The row is about this SID. -/
def isAbout (row : NameRow) (sid : Sid) : Bool :=
  row.base == some sid.base && row.rid == wordColumn sid.rid

/-- The row holds this name, in any ASCII case; without a domain any domain will do. -/
def isNamed (row : NameRow) (name : String) (domain : Option String) : Bool :=
  row.name.any (sameInStore · name) &&
    match domain with
    | none => true
    | some d => row.domain.any (sameInStore · d)

end NameRow
end IdentityMap

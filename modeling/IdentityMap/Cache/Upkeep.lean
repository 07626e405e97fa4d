/-
Writing to the mapping cache and keeping it in order.

Purging keeps every row with a minted id, however stale, so that no such id is ever
handed to another SID.  `maxMinted` is where minting goes on after a restart.
-/
import IdentityMap.Cache.Lookup

namespace IdentityMap.Cache

/-- Writes a mapping in place of the rows that share a key with it. -/
def putId (cache : Cache) (m : IdMapping) : Cache :=
  { cache with ids := Table.put IdRow.collides m.row cache.ids }

/-- Writes the name of a SID in place of the one it had. -/
def putName (cache : Cache) (m : NameMapping) : Cache :=
  { cache with names := Table.put NameRow.collides m.row cache.names }

/-- The row leads from this SID to a minted id of the given kind. -/
def supersedes (sid : Sid) (kind : IdKind) (row : IdRow) : Bool :=
  row.isAbout sid && row.toUnix == some 1 && row.isMinted &&
    row.isUser == boolColumn kind.isUser

/-- Stops leading a SID to a minted id; the id still leads back to the SID. -/
def supersede (cache : Cache) (sid : Sid) (kind : IdKind) : Cache :=
  { cache with
    ids := cache.ids.map fun row =>
      if supersedes sid kind row then { row with toUnix := none } else row }

/-- How many rows `supersede` changes. -/
def supersededRows (cache : Cache) (sid : Sid) (kind : IdKind) : Nat :=
  cache.ids.countP (supersedes sid kind)

/-- A row of the id table that a purge at `now` removes: past its time, and with a
number that was not minted here. -/
def isPurgedId (now : Int) (row : IdRow) : Bool :=
  isPast row.expiration now &&
    match row.number with
    | some n => n < (ephemeralMin.toNat : Int)
    | none => false

def isPurgedName (now : Int) (row : NameRow) : Bool :=
  isPast row.expiration now

/-- Drops the rows that are past their time. -/
def purge (cache : Cache) (now : Int) : Cache :=
  { ids := cache.ids.filter fun row => !isPurgedId now row
    names := cache.names.filter fun row => !isPurgedName now row }

/-- How many rows `purge` drops. -/
def purgedRows (cache : Cache) (now : Int) : Nat :=
  cache.ids.countP (isPurgedId now) + cache.names.countP (isPurgedName now)

/-- The numbers of the rows that hold a minted id of the given kind. -/
def mintedNumbers (cache : Cache) (kind : IdKind) : List Int :=
  (cache.ids.filter fun row => row.isMinted && row.isUser == boolColumn kind.isUser).filterMap
    (·.number)

/-- The highest minted id of a kind in any row. -/
def maxMinted (cache : Cache) (kind : IdKind) : Except Failure (Option UInt32) :=
  match (cache.mintedNumbers kind).max? with
  | none => .ok none
  | some n => (readNumber (some n)).map some

/-- A row of the id table, as it is shown. -/
structure Listed where
  sid : Sid
  windowsDomain : Option String
  windowsName : Option String
  number : UInt32
  unixName : Option String
  isUser : Bool
  toUnix : Bool
  toWindows : Bool
  expiration : Option Int
deriving DecidableEq, Repr

/-- How a row is shown. -/
def listed (row : IdRow) : Except Failure Listed := do
  let sid ← readSid row.base row.rid
  let number ← readNumber row.number
  pure
    { sid
      windowsDomain := row.windowsDomain
      windowsName := row.windowsName
      number
      unixName := row.unixName
      isUser := flagIsSet row.isUser
      toUnix := flagIsSet row.toUnix
      toWindows := flagIsSet row.toWindows
      expiration := row.expiration }

/-- At most `limit` rows of the id table, the newest first. -/
def list (cache : Cache) (limit : Nat) : Except Failure (List Listed) :=
  (cache.ids.reverse.take limit).mapM listed

end IdentityMap.Cache

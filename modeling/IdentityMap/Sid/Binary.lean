/-
The binary layout of a SID in directory attributes.

One byte of revision, one byte that counts the sub-authorities, six bytes of
authority with the highest first, then four bytes per sub-authority with the
lowest first.  The rid is the last sub-authority.  At most fifteen of them fit
what the layout allows to be written; reading takes any count that agrees with
the length.
-/
import IdentityMap.Sid.Basic

namespace IdentityMap.Sid

/-- `width` bytes of `n`, the lowest first. -/
def littleEndian : Nat → Nat → List UInt8
  | 0, _ => []
  | width + 1, n => UInt8.ofNat (n % 256) :: littleEndian width (n / 256)

/-- The number with these bytes, the lowest first. -/
def ofLittleEndian : List UInt8 → Nat
  | [] => 0
  | b :: rest => b.toNat + 256 * ofLittleEndian rest

/-- The 32-bit words in a list of bytes; bytes that fill no word are left out. -/
def wordsOfBytes : List UInt8 → List UInt32
  | a :: b :: c :: d :: rest => UInt32.ofNat (ofLittleEndian [a, b, c, d]) :: wordsOfBytes rest
  | _ => []

/-- The numbers of a SID: revision, authority and sub-authorities without the rid.
The first part of the base is not looked at. -/
def header? (s : Sid) : Option (UInt8 × Nat × List UInt32) :=
  match s.base.toList.splitOn '-' with
  | _ :: revision :: authority :: subs => do
    let revision ← Numeral.unsigned? 0x100 revision
    let authority ← Numeral.unsigned? 0x10000000000000000 authority
    guard (authority < 0x1000000000000)
    let subs ← subs.mapM Numeral.word32?
    pure (UInt8.ofNat revision, authority, subs)
  | _ => none

/-- The bytes of a SID, if its numbers fit the layout. -/
def bytes? (s : Sid) : Option (List UInt8) := do
  let (revision, authority, subs) ← s.header?
  let subs := subs ++ [s.rid]
  guard (subs.length ≤ 15)
  pure (revision :: UInt8.ofNat subs.length :: (littleEndian 6 authority).reverse ++
    subs.flatMap fun sub => littleEndian 4 sub.toNat)

/-- The bytes of a SID, or which SID has none. -/
def toBytes (s : Sid) : Except Failure (List UInt8) :=
  match s.bytes? with
  | some bytes => .ok bytes
  | none => .error (.badSid s.text)

/-- The base written from its numbers. -/
def baseOf (revision : UInt8) (authority : Nat) (subs : List UInt32) : String :=
  subs.foldl (fun acc sub => acc ++ "-" ++ Nat.repr sub.toNat)
    ("S-" ++ Nat.repr revision.toNat ++ "-" ++ Nat.repr authority)

/-- The SID with these bytes: the length has to agree with the count, and there is at
least one sub-authority. -/
def ofBytes? : List UInt8 → Option Sid
  | revision :: count :: rest =>
    if rest.length = 6 + 4 * count.toNat then
      let subs := wordsOfBytes (rest.drop 6)
      subs.getLast?.map fun rid =>
        { base := baseOf revision (ofLittleEndian (rest.take 6).reverse) subs.dropLast, rid }
    else none
  | _ => none

/-- Reads a binary SID, or says how long the bytes were that are none. -/
def ofBytes (bytes : List UInt8) : Except Failure Sid :=
  match ofBytes? bytes with
  | some sid => .ok sid
  | none => .error (.badSid (Nat.repr bytes.length ++ " byte binary SID"))

end IdentityMap.Sid

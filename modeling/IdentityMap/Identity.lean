/-
Unix ids, Windows account types, and what a caller may ask for.

Unix ids from 2^31 upwards are ephemeral: they are minted here and never come
from a name service.
-/
import IdentityMap.Sid.Basic

namespace IdentityMap

/-- The first ephemeral id. -/
def ephemeralMin : UInt32 := 0x80000000

/-- The largest id, which is never handed out. -/
def sentinelId : UInt32 := 0xFFFFFFFF

/-- The uid and the gid of nobody. -/
def nobodyId : UInt32 := 60001

def isEphemeral (id : UInt32) : Bool :=
  ephemeralMin ≤ id

/-- The kinds of unix id. -/
inductive IdKind where
  | uid
  | gid
deriving DecidableEq, Repr

namespace IdKind

def ofIsUser (isUser : Bool) : IdKind :=
  if isUser then .uid else .gid

def isUser : IdKind → Bool
  | .uid => true
  | .gid => false

def text : IdKind → String
  | .uid => "uid"
  | .gid => "gid"

/-- What an id of this kind belongs to. -/
def noun : IdKind → String
  | .uid => "user"
  | .gid => "group"

end IdKind

/-- A unix id: a number and whether it names a user or a group. -/
structure UnixId where
  kind : IdKind
  number : UInt32
deriving DecidableEq, Repr

theorem UnixId.eq_of_number {id id' : UnixId} (hkind : id.kind = id'.kind)
    (hnumber : id.number = id'.number) : id = id' := by
  cases id
  cases id'
  rw [UnixId.mk.injEq]
  exact ⟨hkind, hnumber⟩

def UnixId.text (id : UnixId) : String :=
  id.kind.text ++ ":" ++ Nat.repr id.number.toNat

/-- The unix id of nobody. -/
def UnixId.nobody (kind : IdKind) : UnixId :=
  { kind, number := nobodyId }

/-- The kind of identity a caller asks for. -/
inductive Wanted where
  | uid
  | gid
  /-- A uid or a gid, whichever the source identity turns out to be. -/
  | posix
  | sid
deriving DecidableEq, Repr

def IdKind.wanted : IdKind → Wanted
  | .uid => .uid
  | .gid => .gid

/-- Whether an id of the given kind answers the request. -/
def Wanted.admits : Wanted → IdKind → Bool
  | .uid, .uid => true
  | .gid, .gid => true
  | .posix, _ => true
  | _, _ => false

/-- The kind that an unresolved identity is taken to have: a user, unless the caller
asked for a group. -/
def Wanted.defaultKind : Wanted → IdKind
  | .gid => .gid
  | _ => .uid

/-- An id of `kind` in answer to `wanted`: the wrong kind is an error of its own, and a
SID is never a unix id; `what` says who was asked. -/
def Wanted.check (wanted : Wanted) (kind : IdKind) (what : String) : Except Failure Unit :=
  match wanted, kind with
  | .uid, .gid => .error .notUser
  | .gid, .uid => .error .notGroup
  | .sid, _ => .error (.unsupported what)
  | _, _ => .ok ()

/-- What a Windows account is. -/
inductive AccountType where
  | user
  | group
deriving DecidableEq, Repr

namespace AccountType

def ofIsUser (isUser : Bool) : AccountType :=
  if isUser then .user else .group

def isUser : AccountType → Bool
  | .user => true
  | .group => false

/-- The number that stands for the type in the name cache. -/
def column : AccountType → Int
  | .user => 1
  | .group => 2

def ofColumn? : Int → Option AccountType
  | 1 => some .user
  | 2 => some .group
  | _ => none

/-- The unix kind of an account of this type. -/
def kind : AccountType → IdKind
  | .user => .uid
  | .group => .gid

/-- The unix kind with which an account of this type answers `wanted`. -/
def verify (type : AccountType) (wanted : Wanted) : Except Failure IdKind :=
  (wanted.check type.kind "SID requested as unix id").map fun _ => type.kind

/-- An account answers with its own kind, if that is one that is asked for. -/
theorem verify_ok {type : AccountType} {wanted : Wanted} {kind : IdKind}
    (h : type.verify wanted = .ok kind) :
    kind = type.kind ∧ wanted.check type.kind "SID requested as unix id" = .ok () := by
  unfold verify at h
  cases hcheck : wanted.check type.kind "SID requested as unix id" with
  | error failure =>
      rw [hcheck] at h
      cases h
  | ok u =>
      rw [hcheck] at h
      cases h
      exact ⟨rfl, rfl⟩

end AccountType

/-- The account type that a request implies by itself. -/
def Wanted.accountType? : Wanted → Option AccountType
  | .uid => some .user
  | .gid => some .group
  | .posix | .sid => none

/-- The ways in which a mapping holds. -/
inductive Direction where
  | both
  | toUnix
  | toWindows
deriving DecidableEq, Repr

namespace Direction

def text : Direction → String
  | .both => "bidirectional"
  | .toUnix => "windows-to-unix"
  | .toWindows => "unix-to-windows"

/-- The short name, used in commands and in machine-readable output. -/
def code : Direction → String
  | .both => "bi"
  | .toUnix => "w2u"
  | .toWindows => "u2w"

/-- The mapping holds from Windows to unix. -/
def isToUnix : Direction → Bool
  | .both | .toUnix => true
  | .toWindows => false

/-- The mapping holds from unix to Windows. -/
def isToWindows : Direction → Bool
  | .both | .toWindows => true
  | .toUnix => false

/-- The direction with the two given halves, if there is any. -/
def ofHalves? (toUnix toWindows : Bool) : Option Direction :=
  match toUnix, toWindows with
  | true, true => some .both
  | true, false => some .toUnix
  | false, true => some .toWindows
  | false, false => none

end Direction

/-- A SID or a unix id. -/
inductive Identity where
  | sid (sid : Sid)
  | unix (id : UnixId)
deriving DecidableEq, Repr

namespace Identity

def text : Identity → String
  | .sid s => s.text
  | .unix u => u.text

def sid? : Identity → Option Sid
  | .sid s => some s
  | .unix _ => none

def unix? : Identity → Option UnixId
  | .sid _ => none
  | .unix u => some u

end Identity
end IdentityMap

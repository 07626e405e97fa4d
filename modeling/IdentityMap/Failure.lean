/-
Why a single mapping fails.

A failure belongs to one item of a batch and never touches its siblings.  Only
`notFound` lets resolution go on to the next source; every other cause is final
for its item.  `message` is the one place where a cause becomes words.
-/
namespace IdentityMap

/-- The key of the rule table that a new rule collides with. -/
inductive RuleKey where
  /-- Windows name, Windows domain, account type and windows-to-unix order. -/
  | windows
  /-- Unix name, account type and unix-to-windows order. -/
  | unix
deriving DecidableEq, Repr

def RuleKey.message : RuleKey → String
  | .windows => "windows-to-unix"
  | .unix => "unix-to-windows"

/-- The causes for which an identity cannot be mapped. -/
inductive Failure where
  /-- This source knows nothing; the next one may. -/
  | notFound
  /-- A rule, or the lack of any unix counterpart, denies the mapping on purpose. -/
  | denied
  /-- A uid was asked for and the identity is a group. -/
  | notUser
  /-- A gid was asked for and the identity is a user. -/
  | notGroup
  /-- The directory failed for the moment, and every retry with it. -/
  | directoryUnavailable (detail : String)
  | outOfMemory
  /-- A cache row lacks a column that the answer needs. -/
  | cacheCorrupt (column : String)
  /-- A store, the name service or the directory failed for good. -/
  | storeFailed (detail : String)
  /-- A rule with the same key is already stored. -/
  | ruleConflict (key : RuleKey)
  /-- A rule could not be stored for another reason than its key. -/
  | ruleNotStored (detail : String)
  /-- A rule that can never be evaluated from Windows to unix. -/
  | badWindowsRule (detail : String)
  /-- A rule that can never be evaluated from unix to Windows. -/
  | badUnixRule (detail : String)
  /-- Text or bytes that are no SID. -/
  | badSid (text : String)
  /-- A rule needs the default domain, and none is configured. -/
  | noDomain (name : String)
  /-- The identity type is not handled on this path. -/
  | unsupported (what : String)
  | badArgument (detail : String)
  /-- The authority granted no further block of ids. -/
  | noFreeId (detail : String)
deriving DecidableEq, Repr

/-- The text shown for a failure. -/
def Failure.message : Failure → String
  | .notFound => "not found"
  | .denied => "intentionally unmapped"
  | .notUser => "identity is not a user"
  | .notGroup => "identity is not a group"
  | .directoryUnavailable detail => "directory temporarily unavailable: " ++ detail
  | .outOfMemory => "out of memory"
  | .cacheCorrupt column => "mapping cache is corrupt: " ++ column
  | .storeFailed detail => "internal store error: " ++ detail
  | .ruleConflict key => "conflicting " ++ key.message ++ " name rule already exists"
  | .ruleNotStored detail => "name rule configuration error: " ++ detail
  | .badWindowsRule detail => "invalid windows-to-unix name rule: " ++ detail
  | .badUnixRule detail => "invalid unix-to-windows name rule: " ++ detail
  | .badSid text => "invalid SID: " ++ text
  | .noDomain name => "no mapping domain configured for '" ++ name ++ "'"
  | .unsupported what => "unsupported identity type: " ++ what
  | .badArgument detail => "invalid argument: " ++ detail
  | .noFreeId detail => "ephemeral id allocation failed: " ++ detail

end IdentityMap

/-
The configuration of a service, with the values that hold where a file is silent.
-/
import IdentityMap.Mapping.Engine

namespace IdentityMap

/-- The directory server that unknown accounts are looked up in. -/
structure DirectoryConfig where
  url : String
  /-- Where searches start. -/
  baseDn : String
  /-- The name to log in with; without one the connection stays anonymous. -/
  bindDn : Option String := none
  /-- The environment variable that holds the password. -/
  passwordVariable : Option String := none
  /-- The domain of every entry, if it is not to be read off the entry. -/
  domainName : Option String := none
  /-- How many seconds a search may take. -/
  timeout : Nat := 10
  /-- The password, once the environment was looked at.  It is never written down. -/
  password : Option String := none
deriving DecidableEq, Repr

/-- A configuration. -/
structure Config where
  /-- The directory of the stores. -/
  dataDir : String := "/var/lib/sidmap"
  logLevel : String := "info"
  workers : Nat := 4
  mapping : Settings := {}
  directory : Option DirectoryConfig := none
  passwdFile : String := "/etc/passwd"
  groupFile : String := "/etc/group"
  /-- How many ids are taken from the authority at a time. -/
  blockSize : Nat := Allocator.defaultBlockSize
  /-- How many seconds a store may be waited for before that is reported. -/
  busyWarn : Nat := 2
deriving DecidableEq, Repr

end IdentityMap

/-
Loading a configuration: reading its file, looking the password up in the environment,
and checking that every setting makes sense.
-/
import IdentityMap.Config.Sections
import IdentityMap.Host.Disk
import IdentityMap.Text.Blank
import IdentityMap.Toml.Document
import IdentityMap.Toml.Printer

namespace IdentityMap

/-- Why a configuration cannot be used. -/
inductive ConfigFault where
  /-- There is no such file. -/
  | missing (path : String)
  /-- The text is no document, or not one of this kind. -/
  | malformed
  | unreadable (fault : DiskFault)
  /-- A setting has a value that makes no sense. -/
  | invalid (setting detail : String)
deriving DecidableEq, Repr

def ConfigFault.message : ConfigFault → String
  | .missing path => "config file not found: " ++ path
  | .malformed => "config parse error: the text is no configuration"
  | .unreadable fault => "config I/O error: " ++ fault.message
  | .invalid setting detail => "invalid config value for '" ++ setting ++ "': " ++ detail

/-- The fault and what lies behind it, one after another. -/
def ConfigFault.causes (fault : ConfigFault) : List String :=
  fault.message :: match fault with
    | .unreadable fault => [fault.message]
    | .missing _ | .malformed | .invalid _ _ => []

/-- The variables of the environment. -/
abbrev Environment := List (String × String)

/-- The value of a variable; an empty one is as good as none.  A variable and its value
are one text with an equals sign in between, so that a name that holds an equals sign finds
the rest of a value that goes on in the same way. -/
def Environment.value? (environment : Environment) (name : String) : Option String :=
  let value? (entry : List Char) : Option String :=
    if (name ++ "=").toList.isPrefixOf entry then
      some (String.ofList (entry.drop (name.length + 1)))
    else none
  if name.isEmpty then none
  else (environment.findSome? fun (own, value) =>
    value? (own ++ "=" ++ value).toList).filter (!·.isEmpty)

namespace Config

/-- The configuration that a text is. -/
def ofText? (text : String) : Option Config :=
  (Toml.document? text).bind ofFields?

/-- The text of a configuration. -/
def toToml (c : Config) : String :=
  Toml.Printer.sections c.sections

/-- Reads a configuration file. -/
def load (disk : Disk) (path : String) : Except ConfigFault Config :=
  if disk.has path then
    match disk.readText path with
    | .error fault => .error (.unreadable fault)
    | .ok text => (ofText? text).elim (.error .malformed) .ok
  else .error (.missing path)

/-- Looks the password of the directory up. -/
def resolve (environment : Environment) (c : Config) : Config :=
  { c with
    directory := c.directory.map fun d =>
      match d.passwordVariable with
      | none => d
      | some name => { d with password := environment.value? name } }

/-- The beginnings of the URLs of directory servers. -/
def ldapSchemes : List String :=
  ["ldap://", "ldaps://", "ldapi://"]

/-- A setting must not be zero. -/
def positive (setting detail : String) (n : Nat) : Except ConfigFault Unit :=
  if n = 0 then .error (.invalid setting (detail ++ " must be > 0")) else .ok ()

def checkDirectory (d : DirectoryConfig) : Except ConfigFault Unit := do
  if !ldapSchemes.any (fun scheme => d.url.startsWith scheme) then
    throw (.invalid "directory.ldap_url" ("'" ++ d.url ++ "' is not an LDAP URL"))
  if (trim d.baseDn).isEmpty then
    throw (.invalid "directory.base_dn" "base DN must not be empty")
  positive "directory.timeout_secs" "timeout" d.timeout
  if d.passwordVariable.isSome && d.bindDn.isNone then
    throw (.invalid "directory.bind_dn" "a bind password is configured without a bind DN")

/-- Checks every setting, and reports the first that makes no sense. -/
def validate (c : Config) : Except ConfigFault Unit := do
  match c.mapping.machineSid.map Sid.parse with
  | some (.error e) => throw (.invalid "mapping.machine_sid" e.message)
  | some (.ok _) | none => pure ()
  positive "service.workers" "worker count" c.workers
  positive "ephemeral.block_size" "block size" c.blockSize
  positive "mapping.id_cache_ttl_secs" "TTL" c.mapping.idTtl
  positive "mapping.name_cache_ttl_secs" "TTL" c.mapping.nameTtl
  match c.directory with
  | some d => checkDirectory d
  | none => pure ()

/-- Reads, resolves and checks a configuration. -/
def loadChecked (disk : Disk) (environment : Environment) (path : String) :
    Except ConfigFault Config := do
  let c := (← load disk path).resolve environment
  c.validate
  pure c

end Config
end IdentityMap

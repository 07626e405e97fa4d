/-
Configurations as the sections of a file.

`ofFields?` reads a configuration from the fields of a document and `sections` writes it.
A setting that is not there has its default, except that a directory needs a URL and a
base; one of another type or out of range makes the file unreadable.  Settings that are
not known are passed over.  A section may also be an array, with its settings in the order
in which `sections` writes them.
-/
import IdentityMap.Config.Basic
import IdentityMap.Toml.Value

namespace IdentityMap

/-- What the settings of a section are read from. -/
inductive Section where
  | named (fields : Toml.Fields)
  | listed (items : List Toml.Value)

namespace Section

/-- The section that a value is.  A point in time has no field of any name. -/
def ofValue? : Toml.Value → Option Section
  | .table _ fields => some (.named fields)
  | .array items => some (.listed items)
  | .tables elements => some (.listed (elements.map (.table .header)))
  | .moment => some (.named [])
  | .scalar _ | .float => none

/-- The value of a setting, by its place or its name. -/
def value? : Section → Nat → String → Option Toml.Value
  | .named fields, _, name => fields.lookup name
  | .listed items, place, _ => items[place]?

variable {β : Type}

/-- A setting that has to be there. -/
def required (s : Section) (place : Nat) (name : String) (read : Toml.Value → Option β) :
    Option β :=
  (s.value? place name).bind read

/-- A setting with a default. -/
def get (s : Section) (place : Nat) (name : String) (read : Toml.Value → Option β)
    (default : β) : Option β :=
  match s.value? place name with
  | none => some default
  | some value => read value

/-- A setting that may be left out. -/
def optional (s : Section) (place : Nat) (name : String) (read : Toml.Value → Option β) :
    Option (Option β) :=
  s.get place name (fun value => (read value).map some) none

end Section

namespace Config
open Toml

/-- A section that a document may leave out. -/
def sectionOf (document : Fields) (name : String) : Option Section :=
  match document.lookup name with
  | none => some (.named [])
  | some value => Section.ofValue? value

def readMapping (s : Section) : Option Settings := do
  let default : Settings := {}
  pure {
    machineSid := ← s.optional 0 "machine_sid" Value.text?
    mappingDomain := ← s.optional 1 "mapping_domain" Value.text?
    idTtl := ← s.get 2 "id_cache_ttl_secs" Value.natural? default.idTtl
    nameTtl := ← s.get 3 "name_cache_ttl_secs" Value.natural? default.nameTtl
    mintUnknown := ← s.get 4 "ephemeral_unresolved_sids" Value.boolean? default.mintUnknown }

def readDirectory (s : Section) : Option DirectoryConfig := do
  pure {
    url := ← s.required 0 "ldap_url" Value.text?
    baseDn := ← s.required 1 "base_dn" Value.text?
    bindDn := ← s.optional 2 "bind_dn" Value.text?
    passwordVariable := ← s.optional 3 "bind_password_env" Value.text?
    domainName := ← s.optional 4 "domain_name" Value.text?
    timeout := ← s.get 5 "timeout_secs" Value.natural? 10 }

/-- The configuration in the fields of a document. -/
def ofFields? (document : Fields) : Option Config := do
  let default : Config := {}
  let service ← sectionOf document "service"
  let accounts ← sectionOf document "nameservice"
  let directory ←
    match document.lookup "directory" with
    | none => some none
    | some value => (Section.ofValue? value).bind fun s => (readDirectory s).map some
  pure {
    dataDir := ← service.get 0 "data_dir" Value.text? default.dataDir
    logLevel := ← service.get 1 "log_level" Value.text? default.logLevel
    workers := ← service.get 2 "workers" Value.natural? default.workers
    mapping := ← (sectionOf document "mapping").bind readMapping
    directory
    passwdFile := ← accounts.get 0 "passwd_file" Value.text? default.passwdFile
    groupFile := ← accounts.get 1 "group_file" Value.text? default.groupFile
    blockSize :=
      ← (← sectionOf document "ephemeral").get 0 "block_size" Value.word? default.blockSize
    busyWarn :=
      ← (← sectionOf document "store").get 0 "busy_warn_secs" Value.natural? default.busyWarn }

/-- A line for a text that may be missing. -/
def optionalText (name : String) (value : Option String) : List (String × Scalar) :=
  (value.map fun s => (name, Scalar.text s)).toList

def directorySection (d : DirectoryConfig) : List (String × Scalar) :=
  [("ldap_url", .text d.url), ("base_dn", .text d.baseDn)] ++
    optionalText "bind_dn" d.bindDn ++ optionalText "bind_password_env" d.passwordVariable ++
    optionalText "domain_name" d.domainName ++ [("timeout_secs", .integer d.timeout)]

/-- The sections of a configuration, with every setting that is not missing. -/
def sections (c : Config) : List (String × List (String × Scalar)) :=
  [("service", [("data_dir", .text c.dataDir), ("log_level", .text c.logLevel),
      ("workers", .integer c.workers)]),
    ("mapping", optionalText "machine_sid" c.mapping.machineSid ++
      optionalText "mapping_domain" c.mapping.mappingDomain ++
      [("id_cache_ttl_secs", .integer c.mapping.idTtl),
        ("name_cache_ttl_secs", .integer c.mapping.nameTtl),
        ("ephemeral_unresolved_sids", .boolean c.mapping.mintUnknown)])] ++
    (c.directory.map fun d => ("directory", directorySection d)).toList ++
    [("nameservice", [("passwd_file", .text c.passwdFile), ("group_file", .text c.groupFile)]),
      ("ephemeral", [("block_size", .integer c.blockSize)]),
      ("store", [("busy_warn_secs", .integer c.busyWarn)])]

end Config
end IdentityMap

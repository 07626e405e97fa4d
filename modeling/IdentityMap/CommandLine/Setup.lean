/-
The commands that deal with the configuration itself: one writes a file to start from, and
one checks a file.
-/
import IdentityMap.CommandLine.Session

namespace IdentityMap.CommandLine
open Session

/-- What stands above the settings in a new configuration file. -/
def preamble : String :=
  "# sidmap configuration\n" ++
  "#\n" ++
  "# Add a [directory] section to resolve domain accounts over LDAP:\n" ++
  "#\n" ++
  "# [directory]\n" ++
  "# ldap_url = \"ldap://dc.corp.example.com\"\n" ++
  "# base_dn = \"dc=corp,dc=example,dc=com\"\n" ++
  "# bind_dn = \"cn=sidmap,cn=Users,dc=corp,dc=example,dc=com\"\n" ++
  "# bind_password_env = \"SIDMAP_LDAP_PASSWORD\"\n" ++
  "\n"

/-- Writes a configuration file with the defaults, unless the file is there already. -/
def writeDefaults (output : String) : Session Unit := do
  let disk := (← get).disk
  if disk.has output then
    throw ["file already exists: " ++ output ++
      ". Use a different path or remove the existing file."]
  let disk ← within "failed to write config file"
    ((disk.writeText output (preamble ++ Config.toToml {})).mapError fun f => [f.message])
  modify fun s => { s with disk }
  say ("Default configuration written to " ++ output)
  say ""
  say "Next steps:"
  say "  1. Set mapping.machine_sid and mapping.mapping_domain"
  say "  2. Configure the directory, if any, and export its password variable"
  say ("  3. Validate with: sidmap validate --config " ++ output)

/-- The variable that should hold the password, if it does not. -/
def missingVariable? (c : Config) : Option String := do
  let d ← c.directory
  let name ← d.passwordVariable
  if d.password.isSome then none else some name

/-- The settings that matter most. -/
def summary (c : Config) : List String :=
  ["  Data directory : " ++ c.dataDir,
    "  Workers        : " ++ Nat.repr c.workers,
    "  Machine SID    : " ++ c.mapping.machineSid.getD "not set",
    "  Mapping domain : " ++ c.mapping.mappingDomain.getD "not set",
    "  Cache TTLs     : " ++ Nat.repr c.mapping.idTtl ++ "s ids, " ++
      Nat.repr c.mapping.nameTtl ++ "s names"] ++
  (match c.directory with
    | some d =>
      ["  Directory      : " ++ d.url ++ " (" ++ d.baseDn ++ ")",
        "  Bind password  : " ++ if d.password.isSome then "set" else "NOT SET"]
    | none => ["  Directory      : none"]) ++
  ["  Ephemeral block: " ++ Nat.repr c.blockSize,
    "  Unknown SIDs   : " ++ if c.mapping.mintUnknown then "ephemeral id" else "fail"]

/-- Checks a configuration file, and shows what it says. -/
def checkConfig (path : String) : Session Unit := do
  say ("Validating configuration: " ++ path)
  say ""
  let c ← within "failed to parse configuration"
    ((Config.load (← get).disk path).mapError ConfigFault.causes)
  say "  [OK] TOML structure is valid"
  let c := c.resolve (← read).environment
  match missingVariable? c with
  | none => say "  [OK] Environment variable references processed"
  | some name =>
    say ("  [WARN] directory.bind_password_env: environment variable " ++ name ++
      " is not set or empty")
  match c.validate with
  | .ok () => say "  [OK] All required fields are valid"
  | .error fault =>
    say ("  [FAIL] Validation error: " ++ fault.message)
    throw ["configuration validation failed"]
  say ""
  say "Configuration summary:"
  (summary c).forM say
  say ""
  say "Configuration is valid."

end IdentityMap.CommandLine

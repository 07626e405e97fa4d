/-
The commands of the administration tool, as they stand on its command line.
-/
import IdentityMap.CommandLine.Grammar
import IdentityMap.Mapping.Request

namespace IdentityMap.CommandLine

/-- What is to be mapped. -/
inductive Subject where
  | sid (text : String) (wanted : Wanted)
  /-- A Windows account, with its domain behind an at sign or without one. -/
  | account (name : String) (wanted : Wanted)
  | id (id : UnixId)
  /-- A unix user or group. -/
  | named (kind : IdKind) (name : String)
deriving DecidableEq, Repr

/-- A command. -/
inductive Command where
  /-- Writes a configuration to start from. -/
  | init (output : String)
  /-- Checks a configuration. -/
  | validate
  /-- Shows the rules for users, for groups, or all. -/
  | listRules (isUser : Option Bool)
  | addRule (rule : Rule)
  | removeRules (filter : RuleFilter)
  | flushRules (isUser : Bool)
  | map (subject : Subject)
  | showCache (limit : Nat)
  | clearCache
  | purgeCache
deriving DecidableEq, Repr

/-- A command with the configuration that it is run with. -/
structure Invocation where
  configPath : String
  /-- Answers are wanted as JSON. -/
  json : Bool
  command : Command
deriving DecidableEq, Repr

/-! ### Values -/

/-- A number of 32 bits, with or without a sign; zero may have a minus sign. -/
def number? (word : String) : Option UInt32 :=
  match word.toList with
  | '-' :: digits => (Numeral.digits? digits).bind fun n => if n = 0 then some 0 else none
  | cs => Numeral.word32? cs

def wanted? : String → Option Wanted
  | "uid" => some .uid
  | "gid" => some .gid
  | "posix" => some .posix
  | _ => none

def direction? : String → Option Direction
  | "bi" => some .both
  | "w2u" => some .toUnix
  | "u2w" => some .toWindows
  | _ => none

def anyText : Check := fun _ => true

/-- Paths are not empty. -/
def isPath : Check := fun word => !word.isEmpty

def isNumber : Check := fun word => (number? word).isSome

/-! ### The grammar -/

/-- The option for the wanted kind of id. -/
def wantedOption : OptionSpec :=
  { long := "as", value := some fun word => (wanted? word).isSome }

def directionOption : OptionSpec :=
  { long := "direction", value := some fun word => (direction? word).isSome }

def domainOption : OptionSpec :=
  { long := "domain", short := some 'd', value := some anyText }

/-- The switch from users to groups. -/
def groupSwitch : OptionSpec :=
  { long := "group" }

def ruleCommands : List CommandSpec :=
  [.leaf "list" [{ long := "users" }, { long := "groups" }] [] ["users", "groups"],
    .leaf "add" [domainOption, groupSwitch, directionOption] [anyText, anyText] [],
    .leaf "remove" [{ long := "winname", value := some anyText }, domainOption,
      { long := "unixname", value := some anyText }, groupSwitch, directionOption] [] [],
    .leaf "flush" [groupSwitch] [] []]

def mapCommands : List CommandSpec :=
  [.leaf "sid" [wantedOption] [anyText] [], .leaf "name" [wantedOption] [anyText] [],
    .leaf "uid" [] [isNumber] [], .leaf "gid" [] [isNumber] [],
    .leaf "user" [] [anyText] [], .leaf "group" [] [anyText] []]

def cacheCommands : List CommandSpec :=
  [.leaf "show" [{ long := "limit", short := some 'l', value := some isNumber }] [] [],
    .leaf "flush" [{ long := "expired" }] [] []]

def program : Program where
  options :=
    [{ long := "config", short := some 'c', value := some isPath },
      { long := "log-level", value := some anyText }, { long := "json" }]
  commands :=
    [.leaf "init" [{ long := "output", short := some 'o', value := some isPath }] [] [],
      .leaf "validate" [] [] [], .group "rules" [] ruleCommands, .group "map" [] mapCommands,
      .group "cache" [] cacheCommands]

/-! ### From the words to the command -/

def Parsed.wanted (p : Parsed) : Wanted :=
  ((p.value? "as").bind wanted?).getD .posix

/-- The command that a line stands for. -/
def Parsed.command? (p : Parsed) : Option Command :=
  match p.path, p.arguments with
  | ["init"], _ => some (.init ((p.value? "output").getD "./sidmap.toml"))
  | ["validate"], _ => some .validate
  | ["rules", "list"], _ =>
    some (.listRules (if p.has "users" then some true else if p.has "groups" then some false
      else none))
  | ["rules", "add"], [windowsName, unixName] =>
    some (.addRule {
      isUser := !p.has "group", windowsDomain := p.value? "domain", windowsName, unixName
      isNt4 := false, direction := ((p.value? "direction").bind direction?).getD .both })
  | ["rules", "remove"], _ =>
    some (.removeRules {
      isUser := !p.has "group", windowsDomain := p.value? "domain"
      windowsName := p.value? "winname", unixName := p.value? "unixname"
      direction := (p.value? "direction").bind direction? })
  | ["rules", "flush"], _ => some (.flushRules (!p.has "group"))
  | ["map", "sid"], [text] => some (.map (.sid text p.wanted))
  | ["map", "name"], [name] => some (.map (.account name p.wanted))
  | ["map", "uid"], [word] => (number? word).map fun n => .map (.id { kind := .uid, number := n })
  | ["map", "gid"], [word] => (number? word).map fun n => .map (.id { kind := .gid, number := n })
  | ["map", "user"], [name] => some (.map (.named .uid name))
  | ["map", "group"], [name] => some (.map (.named .gid name))
  | ["cache", "show"], _ =>
    some (.showCache (((p.value? "limit").bind number?).elim 50 (·.toNat)))
  | ["cache", "flush"], _ => some (if p.has "expired" then .purgeCache else .clearCache)
  | _, _ => none

/-- Reads a command line. -/
def Invocation.parse (arguments : List String) : Except Ending Invocation := do
  let p ← program.parse arguments
  match p.command? with
  | none => throw .misused
  | some command =>
    pure {
      configPath := (p.value? "config").getD "/etc/sidmap/config.toml"
      json := p.has "json"
      command }

end IdentityMap.CommandLine

/-
Running the commands of the administration tool.
-/
import IdentityMap.CommandLine.Invocation
import IdentityMap.CommandLine.Output
import IdentityMap.CommandLine.Setup

namespace IdentityMap.CommandLine
open Session

/-- How a command ended: its exit code, and what it printed. -/
structure Outcome where
  code : Nat
  out : String := ""
  err : String := ""
deriving DecidableEq, Repr

/-! ### Mapping -/

/-- The account and the domain of a name; the domain stands behind the first at sign. -/
def splitName (name : String) : String × Option String :=
  match name.splitOn "@" with
  | account :: first :: rest => (account, some ("@".intercalate (first :: rest)))
  | _ => (name, none)

/-- Maps one item with the stores of a configuration. -/
def mapItem (c : Config) (service : Host) (request : Request) : Session Answer := do
  let service ← openStores c service
  let now := (← read).now
  let e := service.engine
  let answers ← call service fun s =>
    match request.id with
    | .sid _ => e.mapSids now [request] s
    | .unix _ => e.mapIds now [request] s
  pure (answers.headD {})

def runMap (configPath : String) (json : Bool) (subject : Subject) : Session Unit := do
  let c ← loadConfig configPath
  let service ← start c
  match subject with
  | .sid text wanted =>
    let sid ← unlessFailed "invalid SID" (Sid.parse text)
    showAnswer json text none (← mapItem c service { id := .sid sid, wanted })
  | .account name wanted =>
    let service ← openStores c service
    let now := (← read).now
    let (account, domain) := splitName name
    let found ← call service (service.engine.mapName now account domain wanted)
    let (sid, answer) ← unlessFailed ("cannot resolve '" ++ name ++ "'") found
    showAnswer json name (some sid) answer
  | .id id =>
    showAnswer json (id.kind.text ++ " " ++ Nat.repr id.number.toNat) none
      (← mapItem c service { id := .unix id, wanted := .sid })
  | .named kind name =>
    let number ← unlessFailed ("no unix " ++ kind.noun ++ " named '" ++ name ++ "'")
      (service.engine.names.idOf kind name)
    showAnswer json name none
      (← mapItem c service { id := .unix { kind, number }, wanted := .sid, name := some name })

/-! ### Rules -/

def runAddRule (service : Host) (rule : Rule) : Session Unit := do
  let added ← call service fun s =>
    match service.engine.addRule rule s with
    | .ok s => (.ok (), s)
    | .error e => (.error e, s)
  unlessFailed "failed to add rule" added
  say "Rule added."

/-- Reports how many rules were removed. -/
def sayRemoved (count : Nat) : Session Unit :=
  say (Nat.repr count ++ " rule(s) removed.")

def runRemoveRules (service : Host) (filter : RuleFilter) : Session Unit := do
  if filter.isEmpty then
    throw ["name at least one of --winname, --domain, --unixname, --direction"]
  let count ← call service fun s =>
    ((s.rules.removed filter).length, { s with rules := s.rules.remove filter })
  sayRemoved count

def runFlushRules (service : Host) (isUser : Bool) : Session Unit := do
  let count ← call service fun s =>
    ((s.rules.list (some isUser)).length, { s with rules := s.rules.flush isUser })
  sayRemoved count

/-! ### The cache -/

def runClear (service : Host) : Session Unit := do
  call service fun s => ((), { s with cache := {} })
  say "Cache cleared."

def runPurge (service : Host) : Session Unit := do
  let now := (← read).now
  let count ← call service fun s => (s.cache.purgedRows now, { s with cache := s.cache.purge now })
  say (Nat.repr count ++ " expired row(s) removed.")

/-! ### All commands -/

def runCommand (i : Invocation) : Session Unit := do
  match i.command with
  | .init output => writeDefaults output
  | .validate => checkConfig i.configPath
  | .map subject => runMap i.configPath i.json subject
  | .listRules isUser =>
    showRules i.json ((← stores (← startOpen i.configPath)).rules.list isUser)
  | .addRule rule => runAddRule (← startOpen i.configPath) rule
  | .removeRules filter => runRemoveRules (← startOpen i.configPath) filter
  | .flushRules isUser => runFlushRules (← startOpen i.configPath) isUser
  | .showCache limit =>
    let cache := (← stores (← startOpen i.configPath)).cache
    showRows i.json (← unlessFailed "failed to read cache" (cache.list limit))
  | .clearCache => runClear (← startOpen i.configPath)
  | .purgeCache => runPurge (← startOpen i.configPath)

/-- The commands in a few lines. -/
def usage : String :=
  "Usage: sidmap [--config <CONFIG>] [--log-level <LOG_LEVEL>] [--json] <COMMAND>\n\n" ++
  "Commands:\n" ++
  "  init [--output <OUTPUT>]\n" ++
  "  validate\n" ++
  "  rules list|add|remove|flush\n" ++
  "  map sid|name|uid|gid|user|group\n" ++
  "  cache show|flush\n"

/-- How a line ends that runs no command. -/
def Ending.outcome : Ending → Outcome
  | .misused => { code := 2, err := "error: the arguments do not fit\n\n" ++ usage }
  | .help => { code := 0, out := usage }
  | .version => { code := 0, out := "sidmap 0.1.0\n" }

/-- Runs a command that was read from a line. -/
def Invocation.run (i : Invocation) (surroundings : Surroundings) (disk : Disk) :
    Outcome × Disk :=
  match (((runCommand i).run surroundings).run.run { disk }) with
  | (.ok (), screen) => ({ code := 0, out := screen.out }, screen.disk)
  | (.error causes, screen) =>
    ({ code := 1, out := screen.out, err := "Error: " ++ ": ".intercalate causes ++ "\n" },
      screen.disk)

/-- Runs a command line on the files. -/
def run (arguments : List String) (surroundings : Surroundings) (disk : Disk) :
    Outcome × Disk :=
  match Invocation.parse arguments with
  | .ok i => i.run surroundings disk
  | .error ending => (ending.outcome, disk)

end IdentityMap.CommandLine

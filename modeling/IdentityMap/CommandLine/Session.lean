/-
What a command runs on: the files, the environment, the time, and a screen.

A command that fails says why in one line: what it was about to do, and then the causes
one behind the other.  What it printed and wrote before stays.
-/
import IdentityMap.Service.Startup

namespace IdentityMap.CommandLine

/-- What a command cannot change. -/
structure Surroundings where
  environment : Environment
  now : Int

/-- The files, and what was printed. -/
structure Screen where
  disk : Disk
  out : String := ""

/-- A command on its way.  It fails with a list of causes. -/
abbrev Session := ReaderT Surroundings (ExceptT (List String) (StateM Screen))

namespace Session

variable {β : Type}

/-- Prints a line. -/
def say (line : String) : Session Unit :=
  modify fun s => { s with out := s.out ++ line ++ "\n" }

/-- Goes on with a value, or fails with the reason for which it was wanted. -/
def within (purpose : String) : Except (List String) β → Session β
  | .ok b => pure b
  | .error causes => throw (purpose :: causes)

/-- Goes on with a value, or fails with why there is none. -/
def unlessFailed (purpose : String) (answer : Except Failure β) : Session β :=
  within purpose (answer.mapError fun e => [e.message])

/-- The service of a configuration, with ids that are handed out one after another. -/
abbrev Host := Service Directory.Source SequentialIds

def loadConfig (path : String) : Session Config := do
  let c := Config.loadChecked (← get).disk (← read).environment path
  within "failed to load configuration file" (c.mapError ConfigFault.causes)

/-- Starts the service, with its stores still closed. -/
def start (c : Config) : Session Host := do
  let (service, disk) := Service.start SequentialIds.authority id c (← get).disk
  modify fun s => { s with disk }
  within "failed to start engine" (service.mapError StartFault.causes)

/-- Opens the stores for a single context. -/
def openStores (c : Config) (service : Host) : Session Host := do
  let (storage, disk) := Service.openStorage c.dataDir 1 (← get).disk
  modify fun s => { s with disk }
  let storage ← within "failed to open mapping stores" (storage.mapError StoreFault.causes)
  pure { service with storage }

/-- Starts the service of a configuration file and opens its stores. -/
def startOpen (configPath : String) : Session Host := do
  let c ← loadConfig configPath
  openStores c (← start c)

/-- What is in the stores. -/
def stores (service : Host) : Session Stores :=
  return service.stores 0 (← get).disk

/-- Calls the engine, and keeps what it changes in the stores. -/
def call (service : Host)
    (f : EngineState Directory.Source SequentialIds →
      β × EngineState Directory.Source SequentialIds) : Session β := do
  let (answer, _, disk) := service.run 0 f (← get).disk
  modify fun s => { s with disk }
  pure answer

end Session
end IdentityMap.CommandLine

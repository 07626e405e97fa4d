/-
The administration tool.

The files that a command line can touch are read first, the command is run on them, and
then those that changed are written.  A directory server is never connected to: where one
is configured, it counts as unreachable.
-/
import IdentityMap.CommandLine.Run
import IdentityMap.Host.StoreText
import Std.Time.DateTime.Timestamp

namespace IdentityMap.Tool

/-- Reads what is at a path, and notes the directories above it. -/
def readPath (disk : Disk) (path : Path) : IO Disk := do
  let found := (← IO.currentDir) / path.text
  if ← found.isDir then return disk.addDirectory path
  if ← found.pathExists then
    let content ← IO.FS.readBinFile found
    return (disk.addDirectory path.dropLast).put path (StoreText.body content)
  return disk

/-- Notes the directory at a path and those above it. -/
def readDirectories (disk : Disk) (path : Path) : IO Disk :=
  (List.range (path.length + 1)).foldlM (fun disk n => readPath disk (path.take n)) disk

/-- Reads what is where a text leads, and what is there on the way. -/
def readWay (disk : Disk) (text : String) : IO Disk := do
  let start := Path.start disk.workingDirectory text
  let disk ← readDirectories disk start
  let steps := Path.steps text
  (List.range (steps.length + 1)).foldlM
    (fun disk n => readPath disk ((steps.take n).foldl Path.descend start)) disk

def readAll (disk : Disk) (texts : List String) : IO Disk :=
  texts.foldlM readWay disk

/-- What can be there of a store: a file of its name, its own file, and those beside it. -/
def filesOfStore (name : String) : List String :=
  name :: ((StoreName.path? name).elim [] fun path =>
    [path, path ++ "-journal", path ++ "-wal", path ++ "-shm"])

/-- The files that a configuration names. -/
def filesOf (c : Config) : List String :=
  [c.passwdFile, c.groupFile] ++ filesOfStore (cacheFile c.dataDir) ++
    filesOfStore (rulesFile c.dataDir)

/-- The file that a command reads or writes first. -/
def firstFile (i : CommandLine.Invocation) : String :=
  match i.command with
  | .init output => output
  | _ => i.configPath

/-- The variable of the environment that a configuration names. -/
def environmentOf (c : Config) : IO Environment := do
  match c.directory.bind (·.passwordVariable) with
  | none => return []
  | some name => return ((← IO.getEnv name).map fun value => (name, value)).toList

/-- Removes the files that a command removed, and writes the directories and files that it
made or changed. -/
def writeChanges (before after : Disk) : IO Unit := do
  for (path, _) in before.files do
    if (after.file? path).isNone then IO.FS.removeFile (path.text)
  for directory in after.directories do
    unless before.directories.contains directory do
      IO.FS.createDirAll (directory.text)
  for (path, body) in after.files do
    let content := StoreText.ofBody body
    unless (before.file? path).any (StoreText.ofBody · == content) do
      IO.FS.writeBinFile (path.text) content

/-- Runs a command. -/
def runInvocation (i : CommandLine.Invocation) : IO CommandLine.Outcome := do
  let workingDirectory := Path.ofText [] (← IO.currentDir).toString
  let disk ← readAll { workingDirectory } [firstFile i]
  let config := (Config.load disk i.configPath).toOption
  let before ← readAll disk (config.elim [] filesOf)
  let environment ← config.elim (pure []) environmentOf
  let now := (← Std.Time.Timestamp.now).toSecondsSinceUnixEpoch.val
  let (outcome, after) := i.run { environment, now } before
  writeChanges before after
  return outcome

end IdentityMap.Tool

def main (arguments : List String) : IO UInt32 := do
  let outcome ←
    match IdentityMap.CommandLine.Invocation.parse arguments with
    | .ok i => IdentityMap.Tool.runInvocation i
    | .error ending => pure ending.outcome
  IO.print outcome.out
  IO.eprint outcome.err
  return outcome.code.toUInt32

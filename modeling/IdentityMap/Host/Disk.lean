/-
The files that the service reads and writes.

A file holds bytes, or one of the two stores.  A store is kept as what is in it: how it
is laid out in bytes is not looked at, and bytes that were not written as a store are no
store.
-/
import IdentityMap.Cache.Upkeep
import IdentityMap.Host.Path
import IdentityMap.Rule.Table

namespace IdentityMap

/-- What a file holds. -/
inductive FileBody where
  | bytes (content : ByteArray)
  /-- A mapping cache. -/
  | cache (content : Cache)
  /-- A rule store. -/
  | rules (content : RuleTable)
  /-- A rule store from the time when its first key still told letters by their case. -/
  | oldRules (rows : List StoredRule)

/-- The file holds nothing that could be a store.  A single byte counts as nothing. -/
def FileBody.isBlank : FileBody → Bool
  | .bytes content => content.size ≤ 1
  | .cache _ | .rules _ | .oldRules _ => false

/-- Why a file cannot be read or written. -/
inductive DiskFault where
  | missing
  | occupied
  | notDirectory
  | isDirectory
  | nameTooLong
  | notText
  | badName
deriving DecidableEq, Repr

def DiskFault.message : DiskFault → String
  | .missing => "No such file or directory (os error 2)"
  | .occupied => "File exists (os error 17)"
  | .notDirectory => "Not a directory (os error 20)"
  | .isDirectory => "Is a directory (os error 21)"
  | .nameTooLong => "File name too long (os error 36)"
  | .notText => "stream did not contain valid UTF-8"
  | .badName => "file name contained an unexpected NUL byte"

/-- Where a text leads. -/
inductive Place where
  | directory (path : Path)
  | file (path : Path) (body : FileBody)
  /-- Nothing is there, but a directory is above it. -/
  | free (path : Path)

/-- Files and directories. -/
structure Disk where
  /-- Where relative paths start. -/
  workingDirectory : Path := []
  files : List (Path × FileBody) := []
  /-- The directories, apart from the root, which is always there. -/
  directories : List Path := []

namespace Disk

/-- The path that a text names if all its steps can be taken. -/
def path (disk : Disk) (text : String) : Path :=
  .ofText disk.workingDirectory text

def file? (disk : Disk) (path : Path) : Option FileBody :=
  (disk.files.find? (·.1 == path)).map (·.2)

def isDirectory (disk : Disk) (path : Path) : Bool :=
  path.isEmpty || disk.directories.contains path

/-! ### Making the tree -/

/-- Puts a body at a path, whether or not a file was there. -/
def put (disk : Disk) (path : Path) (body : FileBody) : Disk :=
  { disk with files := disk.files.filter (·.1 != path) ++ [(path, body)] }

/-- Notes a directory and all above it. -/
def addDirectory (disk : Disk) (path : Path) : Disk :=
  let all := (List.range (path.length + 1)).map (path.take ·)
  { disk with
    directories := disk.directories ++
      all.filter fun p => !p.isEmpty && !disk.directories.contains p }

/-- Puts a body at a path, with the directories above it. -/
def place (disk : Disk) (text : String) (body : FileBody) : Disk :=
  let path := disk.path text
  (disk.addDirectory path.dropLast).put path body

/-! ### Finding the way -/

/-- Where one step leads from a directory. -/
def look (disk : Disk) (directory : Path) (step : String) : Except DiskFault Place :=
  let path := directory.descend step
  if step == "." || step == ".." then .ok (.directory path)
  else if Path.nameLimit < step.utf8ByteSize then .error .nameTooLong
  else if disk.isDirectory path then .ok (.directory path)
  else .ok ((disk.file? path).elim (.free path) (.file path))

/-- The directory to which all steps lead. -/
def walk (disk : Disk) (directory : Path) : List String → Except DiskFault Path
  | [] => .ok directory
  | step :: rest =>
    match disk.look directory step with
    | .ok (.directory path) => disk.walk path rest
    | .ok (.file _ _) => .error .notDirectory
    | .ok (.free _) => .error .missing
    | .error fault => .error fault

/-- Where a text leads.  All its steps but the last must lead to a directory. -/
def locate (disk : Disk) (text : String) : Except DiskFault Place := do
  if text.any (· == '\x00') then throw .badName
  if text.isEmpty then throw .missing
  if Path.textLimit < text.utf8ByteSize then throw .nameTooLong
  let steps := Path.steps text
  let directory ← disk.walk (Path.start disk.workingDirectory text) steps.dropLast
  match steps.getLast? with
  | none => pure (.directory directory)
  | some step => disk.look directory step

/-- What is where a text leads. -/
def found (disk : Disk) (text : String) : Except DiskFault Place := do
  match ← disk.locate text with
  | .free _ => throw .missing
  | .file path body => if Path.endsInSlash text then throw .notDirectory else pure (.file path body)
  | .directory path => pure (.directory path)

/-- There is a file or a directory of this name. -/
def has (disk : Disk) (text : String) : Bool :=
  (disk.found text).toBool

/-- There is a directory of this name. -/
def hasDirectory (disk : Disk) (text : String) : Bool :=
  match disk.found text with
  | .ok (.directory _) => true
  | _ => false

/-! ### Reading and writing -/

/-- The text in a file. -/
def readText (disk : Disk) (text : String) : Except DiskFault String := do
  match ← disk.found text with
  | .file _ (.bytes content) =>
    match String.fromUTF8? content with
    | some s => pure s
    | none => throw .notText
  | .file _ _ => throw .notText
  | .directory _ | .free _ => throw .isDirectory

/-- Writes a text to a file. -/
def writeText (disk : Disk) (text content : String) : Except DiskFault Disk := do
  match ← disk.locate text with
  | .directory _ => throw .isDirectory
  | .file path _ | .free path =>
    if Path.endsInSlash text then throw .isDirectory
    pure (disk.put path (.bytes content.toUTF8))

/-- Removes a file, if one is there. -/
def removeFile (disk : Disk) (text : String) : Except DiskFault Disk :=
  match disk.found text with
  | .ok (.file path _) => .ok { disk with files := disk.files.filter (·.1 != path) }
  | .ok (.directory _) | .ok (.free _) => .error .isDirectory
  | .error .missing => .ok disk
  | .error fault => .error fault

/-- Removes files one after another, up to the first that cannot be removed. -/
def removeFiles (disk : Disk) : List String → Except DiskFault Unit × Disk
  | [] => (.ok (), disk)
  | text :: rest =>
    match disk.removeFile text with
    | .ok disk => disk.removeFiles rest
    | .error fault => (.error fault, disk)

/-- Makes one directory. -/
def makeDirectory (disk : Disk) (text : String) : Except DiskFault Disk := do
  match ← disk.locate text with
  | .directory _ | .file _ _ => throw .occupied
  | .free path => pure (disk.addDirectory path)

/-- Makes the first of these directories.  Those behind it are above it, and are made
before it as far as they are not there.  What was made stays, also if the rest cannot be
made. -/
def makeWithAbove (disk : Disk) : List String → Except DiskFault Unit × Disk
  | [] => (.ok (), disk)
  | text :: above =>
    if disk.hasDirectory text then (.ok (), disk)
    else match disk.makeDirectory text with
      | .ok disk => (.ok (), disk)
      | .error .missing =>
        match disk.makeWithAbove above with
        | (.error fault, disk) => (.error fault, disk)
        | (.ok (), disk) =>
          match disk.makeDirectory text with
          | .ok disk => (.ok (), disk)
          | .error fault =>
            if fault = .occupied ∧ disk.hasDirectory text then (.ok (), disk)
            else (.error fault, disk)
      | .error fault => (.error fault, disk)

/-- Makes a directory and all above it, as far as they are not there. -/
def createDirectories (disk : Disk) (text : String) : Except DiskFault Unit × Disk :=
  if text.isEmpty then (.ok (), disk) else disk.makeWithAbove (text :: Path.above text)

end Disk
end IdentityMap

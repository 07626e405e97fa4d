/-
Paths, and the texts that name them.

A path is where a file is: the names that lead to it from the root.  A text says which
steps to take, from the root if it begins with a slash and else from the working
directory.  `.` stays where it is and `..` goes back.  Whether the steps can be taken
depends on what is there (`Disk`); here a step is taken as if every name were a directory.
-/
namespace IdentityMap

/-- The components of an absolute path. -/
abbrev Path := List String

namespace Path

/-- The path as a text. -/
def text (path : Path) : String :=
  "/" ++ "/".intercalate path

/-- One more step on a path. -/
def descend (path : Path) (step : String) : Path :=
  if step == "." then path else if step == ".." then path.dropLast else path ++ [step]

/-- The steps of a text.  Several slashes are as good as one. -/
def steps (text : String) : List String :=
  (text.splitOn "/").filter (!·.isEmpty)

/-- Where the steps of a text start. -/
def start (workingDirectory : Path) (text : String) : Path :=
  if text.startsWith "/" then [] else workingDirectory

/-- The path that a text names if all its steps can be taken. -/
def ofText (workingDirectory : Path) (text : String) : Path :=
  (steps text).foldl descend (start workingDirectory text)

/-- A text that ends in a slash can only name a directory. -/
def endsInSlash (text : String) : Bool :=
  text.endsWith "/"

/-- No name is longer, in bytes. -/
def nameLimit : Nat := 255

/-- No text is longer, in bytes. -/
def textLimit : Nat := 4095

/-- The text of a path within a directory, as it is written: a text that starts at the
root stays as it is, and the separator is not doubled. -/
def join (directory name : String) : String :=
  if directory.isEmpty || name.startsWith "/" then name
  else if directory.endsWith "/" then directory ++ name
  else directory ++ "/" ++ name

/-- The texts of the directories above the one that a text names, the nearest first.  Of
the steps that stay in place only one at the beginning counts, and the working directory
itself is left out. -/
def above (text : String) : List String :=
  let slash := if text.startsWith "/" then "/" else ""
  let all := steps text
  let counted := (if slash.isEmpty then all.take 1 else []) ++
    (all.drop (if slash.isEmpty then 1 else 0)).filter (· != ".")
  let shorter := (List.range counted.length).reverse.map fun n =>
    slash ++ "/".intercalate (counted.take n)
  shorter.filter (!·.isEmpty)

end Path
end IdentityMap

/-
Tables of local accounts, read from lines such as `alice:x:1001:100::/home/alice:/bin/sh`.

The name is the first field and the id the third.  Comments, blank lines, lines that
refer to another database (they start with `+` or `-`) and lines without a name or a
number are passed over.  A name that occurs twice has its last id; an id that occurs
twice has its first name.
-/
import IdentityMap.Account.NameService
import IdentityMap.Text.Blank

namespace IdentityMap

/-- The accounts of one kind, in the order in which they were read. -/
structure AccountTable where
  entries : List (String × UInt32) := []
deriving DecidableEq, Repr

namespace AccountTable

/-- The id of the last account with this name. -/
def idOf (table : AccountTable) (name : String) : Except Failure UInt32 :=
  match table.entries.reverse.find? (·.1 == name) with
  | some entry => .ok entry.2
  | none => .error .notFound

/-- The name of the first account with this id. -/
def nameOf (table : AccountTable) (id : UInt32) : Except Failure String :=
  match table.entries.find? (·.2 == id) with
  | some entry => .ok entry.1
  | none => .error .notFound

/-- The line stands for no account: it is blank, a comment, or refers elsewhere. -/
def isSkipped : List Char → Bool
  | [] => true
  | c :: _ => c == '#' || c == '+' || c == '-'

/-- The account on a line without blanks at its ends. -/
def ofLine? (line : List Char) : Option (String × UInt32) :=
  if isSkipped line then none
  else
    match line.splitOn ':' with
    | name :: _ :: id :: _ =>
      if name.isEmpty then none else (Numeral.word32? id).map fun id => (String.ofList name, id)
    | _ => none

/-- The accounts in a text. -/
def ofText (text : String) : AccountTable :=
  { entries := (text.toList.splitOn '\n').filterMap fun line => ofLine? (trimChars line) }

end AccountTable

/-- The name service over a table of users and a table of groups. -/
def NameService.ofTables (users groups : AccountTable) : NameService :=
  { idOf := fun kind name =>
      match kind with
      | .uid => users.idOf name
      | .gid => groups.idOf name
    nameOf := fun kind id =>
      match kind with
      | .uid => users.nameOf id
      | .gid => groups.nameOf id }

end IdentityMap

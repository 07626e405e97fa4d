/-
JSON, written with one field or item on a line and two spaces for each level.

The fields of an object are written in the order in which they are given.
-/
namespace IdentityMap.CommandLine

/-- A JSON value without fractions. -/
inductive Json where
  | null
  | boolean (b : Bool)
  | integer (n : Int)
  | text (s : String)
  | array (items : List Json)
  | object (fields : List (String × Json))

namespace Json

/-- A text, or null. -/
def ofText? (s : Option String) : Json :=
  s.elim .null .text

/-- A number, or null. -/
def ofNat? (n : Option Nat) : Json :=
  n.elim .null fun n => .integer n

/-- A character within quotes. -/
def escape (c : Char) : List Char :=
  match c with
  | '"' => ['\\', '"']
  | '\\' => ['\\', '\\']
  | '\x08' => ['\\', 'b']
  | '\x0c' => ['\\', 'f']
  | '\n' => ['\\', 'n']
  | '\r' => ['\\', 'r']
  | '\t' => ['\\', 't']
  | c =>
    if c.toNat < 0x20 then
      ['\\', 'u', '0', '0', Nat.digitChar (c.toNat / 16), Nat.digitChar (c.toNat % 16)]
    else [c]

def quote (s : String) : String :=
  "\"" ++ String.ofList (s.toList.flatMap escape) ++ "\""

/-- The start of a line at a level. -/
def indent (level : Nat) : String :=
  "".pushn ' ' (2 * level)

mutual

/-- A value whose first line starts within a line of the given level. -/
def render (level : Nat) : Json → String
  | .null => "null"
  | .boolean b => if b then "true" else "false"
  | .integer n => toString n
  | .text s => quote s
  | .array [] => "[]"
  | .array items => "[\n" ++ renderItems (level + 1) items ++ "\n" ++ indent level ++ "]"
  | .object [] => "\x7b\x7d"
  | .object fields =>
    "\x7b\n" ++ renderFields (level + 1) fields ++ "\n" ++ indent level ++ "\x7d"

def renderItems (level : Nat) : List Json → String
  | [] => ""
  | [item] => indent level ++ render level item
  | item :: rest => indent level ++ render level item ++ ",\n" ++ renderItems level rest

def renderFields (level : Nat) : List (String × Json) → String
  | [] => ""
  | [(name, value)] => indent level ++ quote name ++ ": " ++ render level value
  | (name, value) :: rest =>
    indent level ++ quote name ++ ": " ++ render level value ++ ",\n" ++ renderFields level rest

end

/-- The text of a value. -/
def toText (j : Json) : String :=
  render 0 j

end Json
end IdentityMap.CommandLine

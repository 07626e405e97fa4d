/-
Keys and values, as a TOML document writes them.

Arrays and inline tables nest up to a fixed depth, and a dotted key has no more parts
than that.
-/
import IdentityMap.Toml.Moment
import IdentityMap.Toml.Number
import IdentityMap.Toml.Table

namespace IdentityMap.Toml
open Reader Spacing

/-- How deep arrays and inline tables nest, and how many parts a key has. -/
def maxDepth : Nat := 79

/-- A key that leads through tables to a name. -/
structure Key where
  path : List String
  name : String

namespace Key

/-- The characters of a name that needs no quotes. -/
def isBare (c : Char) : Bool :=
  c.isAlphanum || c == '-' || c == '_'

def part : Reader String :=
  Quoted.line <|> (String.ofList <$> run1 isBare)

def reader : Reader Key := do
  let parts ← separatedBy (char '.') do
    space
    let name ← part
    space
    pure name
  if parts.length ≤ maxDepth then
    match parts.getLast? with
    | some name => pure { path := parts.dropLast, name }
    | none => failure
  else failure

end Key

namespace Value

/-- The values that hold no others. -/
def simple : Reader Value :=
  ((.scalar <| .text ·) <$> Quoted.text) <|>
  (do Moment.moment; pure .moment) <|>
  (do Number.float; pure .float) <|>
  ((.scalar <| .integer ·) <$> Number.integer) <|>
  (do word ['t', 'r', 'u', 'e']; pure (.scalar (.boolean true))) <|>
  (do word ['f', 'a', 'l', 's', 'e']; pure (.scalar (.boolean false)))

/-- Items with commas between them, and perhaps one after the last. -/
def arrayOf (item : Reader Value) : Reader Value := do
  char '['
  let items ← maybe (separatedBy (char ',') do
    gap
    let value ← item
    gap
    pure value)
  if items.isSome then discard (maybe (char ','))
  gap
  char ']'
  return .array (items.getD [])

/-- Keys and values with commas between them, all on one line. -/
def tableOf (item : Reader Value) : Reader Value := do
  char '\x7b'
  let pairs ← maybe (separatedBy (char ',') do
    let key ← Key.reader
    char '='
    space
    let value ← item
    space
    pure (key, value))
  space
  char '\x7d'
  match (pairs.getD []).foldlM (fun fields (key, value) =>
      Fields.assign true key.path key.name value fields) [] with
  | some fields => pure (.table .inline fields)
  | none => failure

/-- A value in which arrays and inline tables nest up to a depth. -/
def reader : Nat → Reader Value
  | 0 => simple
  | depth + 1 => simple <|> arrayOf (reader depth) <|> tableOf (reader depth)

end Value
end IdentityMap.Toml

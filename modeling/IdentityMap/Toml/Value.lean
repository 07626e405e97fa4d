/-
The values of a TOML document.

A table remembers how it came to be, because that decides what later lines may still add
to it.  No setting is a float or a point in time, so of these only the kind is kept.
-/
namespace IdentityMap.Toml

/-- How a table came to be. -/
inductive Origin where
  /-- Written in braces: complete as it stands. -/
  | inline
  /-- Opened by a header of its own. -/
  | header
  /-- On the way to a table that a header opened. -/
  | implied
  /-- On the way to a value with a dotted key. -/
  | dotted
deriving DecidableEq, Repr

/-- The values that settings have. -/
inductive Scalar where
  | text (s : String)
  | integer (n : Int)
  | boolean (b : Bool)
deriving DecidableEq, Repr

/-- A value, with the fields of a table in the order in which they were written. -/
inductive Value where
  | scalar (s : Scalar)
  | float
  | moment
  | array (items : List Value)
  | table (origin : Origin) (fields : List (String × Value))
  /-- The tables that a repeated header opened. -/
  | tables (elements : List (List (String × Value)))

/-- What stands in a table. -/
abbrev Fields := List (String × Value)

namespace Value

def text? : Value → Option String
  | .scalar (.text s) => some s
  | _ => none

def boolean? : Value → Option Bool
  | .scalar (.boolean b) => some b
  | _ => none

def natural? : Value → Option Nat
  | .scalar (.integer n) => if 0 ≤ n then some n.toNat else none
  | _ => none

/-- A number of 32 bits. -/
def word? (value : Value) : Option Nat :=
  value.natural?.filter (· < 0x100000000)

end Value

end IdentityMap.Toml

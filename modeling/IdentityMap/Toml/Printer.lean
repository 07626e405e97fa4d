/-
Writing TOML: lines with a key and a scalar, under the headers of their sections.

A text stands in the simplest quotes that show it as it is: double quotes, single quotes,
three double quotes, three single quotes, in this order.  Single quotes hold no escapes, and
double quotes are preferred only where they need none; line ends need three quotes.  A text
that no quotes show as it is stands in double quotes, with escapes.
-/
import IdentityMap.Toml.Value

namespace IdentityMap.Toml.Printer

/-- Characters that no quotes let stand for themselves; the tab and the line end are not
counted among them. -/
def isControl (c : Char) : Bool :=
  (c.toNat < 0x20 && c != '\t' && c != '\n') || c.toNat == 0x7F

/-- The length of the longest run of a character, of which so many stand just before. -/
def longestRun (q : Char) : Nat → List Char → Nat
  | run, [] => run
  | run, c :: cs => if c == q then longestRun q (run + 1) cs else max run (longestRun q 0 cs)

/-- Four hexadecimal digits. -/
def fourDigits (n : Nat) : List Char :=
  ([n / 4096, n / 256, n / 16, n].map fun d => (Nat.digitChar (d % 16)).toUpper)

/-- A character in double quotes.  Only a text of several lines, in three quotes, holds
line ends. -/
def escape (c : Char) : List Char :=
  match c with
  | '\x08' => ['\\', 'b']
  | '\t' => ['\\', 't']
  | '\n' => ['\n']
  | '\x0c' => ['\\', 'f']
  | '\r' => ['\\', 'r']
  | '\\' => ['\\', '\\']
  | c => if isControl c then '\\' :: 'u' :: fourDigits c.toNat else [c]

/-- A text in double quotes, where `free` double quotes in a row stand for themselves and
`seen` of them stand just before. -/
def escapeAll (free : Nat) : Nat → List Char → List Char
  | _, [] => []
  | seen, '"' :: cs =>
    if seen < free then '"' :: escapeAll free (seen + 1) cs
    else '\\' :: '"' :: escapeAll free 0 cs
  | _, c :: cs => escape c ++ escapeAll free 0 cs

/-- The quotes around a text. -/
inductive Quotes where
  | double
  | single
  | tripleDouble
  | tripleSingle
deriving DecidableEq, Repr

def Quotes.mark : Quotes → String
  | .double => "\""
  | .single => "'"
  | .tripleDouble => "\"\"\""
  | .tripleSingle => "'''"

/-- The quotes that suit a text. -/
def Quotes.suiting (cs : List Char) : Quotes :=
  let severalLines := cs.contains '\n'
  let plain := !cs.any isControl
  let verbatim := plain && !cs.contains '\\'
  if verbatim && !cs.contains '"' && !severalLines then .double
  else if plain && !cs.contains '\'' && !severalLines then .single
  else if verbatim && longestRun '"' 0 cs ≤ 2 then .tripleDouble
  else if plain && longestRun '\'' 0 cs ≤ 2 then .tripleSingle
  else if severalLines then .tripleDouble
  else .double

/-- A text within quotes. -/
def Quotes.content (quotes : Quotes) (cs : List Char) : List Char :=
  match quotes with
  | .double => escapeAll 0 0 cs
  | .tripleDouble => escapeAll 2 0 cs
  | .single | .tripleSingle => cs

/-- A text in the quotes that suit it.  A text of several lines starts on a line of its
own. -/
def quote (s : String) : String :=
  let cs := s.toList
  let quotes := Quotes.suiting cs
  quotes.mark ++ (if cs.contains '\n' then "\n" else "") ++ String.ofList (quotes.content cs) ++
    quotes.mark

def scalar : Scalar → String
  | .text s => quote s
  | .integer n => toString n
  | .boolean b => if b then "true" else "false"

/-- A line that sets a key, which must not need quotes. -/
def line (key : String) (value : Scalar) : String :=
  key ++ " = " ++ scalar value ++ "\n"

/-- Sections with an empty line between them. -/
def sections (all : List (String × List (String × Scalar))) : String :=
  "\n".intercalate (all.map fun (name, fields) =>
    "[" ++ name ++ "]\n" ++ String.join (fields.map fun (key, value) => line key value))

end IdentityMap.Toml.Printer

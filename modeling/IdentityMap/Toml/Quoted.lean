/-
Texts in quotes, as a TOML document writes them.

Double quotes allow escapes and single quotes do not.  Three quotes in place of one let
the text go over several lines; then one or two quotes may stand within it, and also
right before the closing three.
-/
import IdentityMap.Text.Numeral
import IdentityMap.Toml.Spacing

namespace IdentityMap.Toml.Quoted
open Reader Spacing

/-- The character whose code has so many hexadecimal digits. -/
def codePoint (digits : Nat) : Reader Char := do
  let n := Numeral.valueOf 16 (← exactly Numeral.isHexDigit digits)
  let c := Char.ofNat n
  if c.toNat = n then pure c else failure

/-- An escape for one character. -/
def escape : Reader Char := do
  char '\\'
  match ← anyChar with
  | 'b' => pure '\x08'
  | 't' => pure '\t'
  | 'n' => pure '\n'
  | 'f' => pure '\x0c'
  | 'r' => pure '\r'
  | '"' => pure '"'
  | '\\' => pure '\\'
  | 'u' => codePoint 4
  | 'U' => codePoint 8
  | _ => failure

/-- A character that stands for itself in double quotes. -/
def plain : Reader Char :=
  satisfying fun c => isPrintable c && c != '"' && c != '\\'

/-- A character that stands for itself in single quotes. -/
def literal : Reader Char :=
  satisfying fun c => isPrintable c && c != '\''

/-- A backslash at the end of a line takes the line end and all blanks after it away. -/
def joinedLine : Reader (List Char) := do
  char '\\'
  space
  newline
  blankLines
  pure []

/-- A line end within a text is a line feed. -/
def lineBreak : Reader (List Char) := do
  newline
  pure ['\n']

/-- One or two quotes within a text of several lines. -/
def innerQuotes (quote : Char) : Reader (List Char) := do
  let quotes ← run1 (· == quote)
  if quotes.length ≤ 2 then pure quotes else failure

/-- The closing three quotes, and the one or two that belong to the text before them. -/
def closing (quote : Char) : Reader (List Char) := do
  let quotes ← run1 (· == quote)
  if 3 ≤ quotes.length ∧ quotes.length ≤ 5 then pure (quotes.drop 3) else failure

/-- A text of one line. -/
def oneLine (quote : Char) (character : Reader Char) : Reader String := do
  char quote
  let cs ← many character
  char quote
  return String.ofList cs

/-- A text of several lines.  A line end right after the opening quotes does not count. -/
def severalLines (quote : Char) (piece : Reader (List Char)) : Reader String := do
  word [quote, quote, quote]
  discard (maybe newline)
  let pieces ← many (piece <|> innerQuotes quote)
  let last ← closing quote
  return String.ofList (pieces.flatten ++ last)

def single (r : Reader Char) : Reader (List Char) :=
  return [← r]

/-- A text on one line, in quotes of either kind. -/
def line : Reader String :=
  oneLine '"' (plain <|> escape) <|> oneLine '\'' literal

/-- A text in quotes of any kind. -/
def text : Reader String :=
  severalLines '"' (single plain <|> lineBreak <|> joinedLine <|> single escape) <|>
    severalLines '\'' (single literal <|> lineBreak) <|> line

end IdentityMap.Toml.Quoted

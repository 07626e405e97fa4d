/-
What stands between the parts of a TOML document: blanks, line ends and comments.
-/
import IdentityMap.Text.Reader

namespace IdentityMap.Toml

/-- The blanks within a line. -/
def isSpace (c : Char) : Bool :=
  c == ' ' || c == '\t'

/-- The characters that may stand in a comment: all but the control characters, of which
the tab is allowed. -/
def isPrintable (c : Char) : Bool :=
  c == '\t' || (0x20 ≤ c.toNat && c.toNat != 0x7F)

namespace Spacing
open Reader

def space : Reader Unit :=
  discard (run isSpace)

/-- A line feed, with or without a carriage return before it. -/
def newline : Reader Unit :=
  char '\n' <|> word ['\r', '\n']

def comment : Reader Unit := do
  char '#'
  discard (run isPrintable)

/-- What may follow a statement on its line, and the end of the line. -/
def lineEnd : Reader Unit := do
  space
  discard (maybe comment)
  newline <|> atEnd

/-- Blanks and line ends. -/
def blankLines : Reader Unit :=
  discard (many (discard (run1 isSpace) <|> newline))

/-- Blanks, line ends and comments, as between the items of an array. -/
def gap : Reader Unit :=
  discard (many (discard (run1 isSpace) <|> newline <|> comment))

end Spacing
end IdentityMap.Toml

/-
How many columns a text takes on a screen.
-/
import IdentityMap.Text.Width.Following

namespace IdentityMap.Width

/-- The columns of characters, and what they are for a character on their left. -/
def ofChars (cs : List Char) : Step :=
  cs.foldr (fun c (columns, following) =>
    let (own, here) := step following c
    (columns + own, here)) (0, .nothing)

/-- The columns of a text on one line. -/
def ofText (s : String) : Nat :=
  (ofChars s.toList).1.toNat

end IdentityMap.Width

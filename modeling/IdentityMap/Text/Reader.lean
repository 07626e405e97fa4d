/-
Readers: functions that take a value off the front of a text.

A reader refuses, or gives a value with the rest of the text.  Readers are put one after
another in `do` blocks.  `a <|> b` reads with `b` what `a` refuses, from the same place.
-/
namespace IdentityMap

/-- Takes a value off the front of a text. -/
abbrev Reader := StateT (List Char) Option

namespace Reader

variable {β : Type}

/-- Takes one character of a class. -/
def satisfying (p : Char → Bool) : Reader Char := fun cs =>
  match cs with
  | [] => none
  | c :: rest => if p c then some (c, rest) else none

/-- Takes any one character. -/
def anyChar : Reader Char :=
  satisfying fun _ => true

/-- Takes the given character. -/
def char (c : Char) : Reader Unit :=
  discard (satisfying (· == c))

/-- Takes the given characters. -/
def word : List Char → Reader Unit
  | [] => pure ()
  | c :: rest => do
    char c
    word rest

/-- Takes all characters up to the first that is not of a class. -/
def run (p : Char → Bool) : Reader (List Char) := fun cs =>
  some (cs.takeWhile p, cs.dropWhile p)

/-- Takes characters of a class, at least one. -/
def run1 (p : Char → Bool) : Reader (List Char) :=
  return (← satisfying p) :: (← run p)

/-- Takes as many characters of a class as are asked for. -/
def exactly (p : Char → Bool) : Nat → Reader (List Char)
  | 0 => pure []
  | n + 1 => return (← satisfying p) :: (← exactly p n)

/-- Takes a value if there is one. -/
def maybe (r : Reader β) : Reader (Option β) :=
  (some <$> r) <|> pure none

/-- Takes values until one is refused, and no more of them than the bound has
characters. -/
def manyWithin (r : Reader β) : List Char → Reader (List β)
  | [] => pure []
  | _ :: bound => fun cs =>
    match r cs with
    | none => some ([], cs)
    | some (b, rest) => (manyWithin r bound rest).map fun (bs, rest) => (b :: bs, rest)

/-- Takes as many values as there are.  Each has to take something off the text, so there
are no more of them than the text has characters. -/
def many (r : Reader β) : Reader (List β) := fun cs =>
  manyWithin r cs cs

/-- Takes values with a separator between each two, at least one. -/
def separatedBy (separator : Reader Unit) (r : Reader β) : Reader (List β) := do
  let first ← r
  let rest ← many do
    separator
    r
  return first :: rest

/-- Takes nothing, at the end of the text. -/
def atEnd : Reader Unit := fun cs =>
  if cs.isEmpty then some ((), cs) else none

/-- Takes nothing, before the end of the text. -/
def beforeEnd : Reader Unit := fun cs =>
  if cs.isEmpty then none else some ((), cs)

/-- The value that a whole text is. -/
def whole (r : Reader β) (cs : List Char) : Option β :=
  match r cs with
  | some (b, []) => some b
  | _ => none

/-- Reading as many as there are within a bound never refuses. -/
theorem manyWithin_isSome (r : Reader β) (bound cs : List Char) :
    (manyWithin r bound cs).isSome = true := by
  induction bound generalizing cs with
  | nil => rfl
  | cons _ _ ih =>
    unfold manyWithin
    split
    · rfl
    · simp [ih]

/-- Reading as many as there are never refuses. -/
theorem many_isSome (r : Reader β) (cs : List Char) : (many r cs).isSome = true :=
  manyWithin_isSome r cs cs

end Reader
end IdentityMap

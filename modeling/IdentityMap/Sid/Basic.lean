/-
Security identifiers, split into the part shared by a domain and the relative id.

Every table keys on the pair `(base, rid)`: the base is the text up to the last
dash (`S-1-5-21-1-2-3`), the rid the number behind it (`1104`).  Bases compare
character for character, so spelling matters; only `hasBase` ignores ASCII case.

`parse` accepts `S-1-<authority>-<sub>…-<rid>` and nothing else, and makes the
leading letter a capital.
-/
import IdentityMap.Failure
import IdentityMap.Text.Fold
import IdentityMap.Text.Numeral

namespace IdentityMap

/-- A security identifier. -/
structure Sid where
  /-- The text before the last dash. -/
  base : String
  /-- The number behind the last dash. -/
  rid : UInt32
deriving DecidableEq, Repr, Inhabited

namespace Sid

/-- The SID as one text. -/
def text (s : Sid) : String :=
  s.base ++ "-" ++ Nat.repr s.rid.toNat

/-- The bases agree up to ASCII case. -/
def hasBase (s : Sid) (base : String) : Bool :=
  sameFolded s.base base

/-- The parts of a SID's text behind its letter: revision 1, an authority of 64 bits,
and at least one sub-authority of 32 bits.  The last sub-authority is the rid. -/
def ofParts? : List (List Char) → Option Sid
  | revision :: authority :: sub :: subs =>
    if revision = ['1'] ∧ (Numeral.unsigned? 0x10000000000000000 authority).isSome ∧
        (sub :: subs).all (fun part => (Numeral.word32? part).isSome) then
      let parts := revision :: authority :: sub :: subs
      (Numeral.word32? ((sub :: subs).getLast (by simp))).map fun rid =>
        { base := String.ofList ('S' :: '-' :: ['-'].intercalate parts.dropLast), rid }
    else none
  | _ => none

/-- Reads the characters of a SID. -/
def ofChars? : List Char → Option Sid
  | letter :: '-' :: rest =>
    if letter = 'S' ∨ letter = 's' then ofParts? (rest.splitOn '-') else none
  | _ => none

/-- Reads a SID, or says which text is none. -/
def parse (text : String) : Except Failure Sid :=
  match ofChars? text.toList with
  | some sid => .ok sid
  | none => .error (.badSid text)

end Sid
end IdentityMap

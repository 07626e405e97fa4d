/-
Comparison of names that ignores the case of ASCII letters.

Windows names, SID prefixes and LDAP attribute values compare this way.  Letters
outside ASCII keep their case: `é` and `É` stay apart.

The stores compare Windows names this way too, but stop at a NUL: of what comes behind it
only the length counts.
-/
namespace IdentityMap

/-- A text with its ASCII capitals made small; all other characters stay. -/
def fold (s : String) : List Char :=
  s.toList.map Char.toLower

/-- The two texts differ at most in the case of ASCII letters. -/
def sameFolded (a b : String) : Bool :=
  fold a == fold b

theorem sameFolded_iff {a b : String} : sameFolded a b = true ↔ fold a = fold b := by
  simp [sameFolded]

theorem sameFolded_refl (a : String) : sameFolded a a = true := by
  simp [sameFolded]

theorem sameFolded_comm (a b : String) : sameFolded a b = sameFolded b a := by
  rw [Bool.eq_iff_iff, sameFolded_iff, sameFolded_iff]
  exact eq_comm

theorem sameFolded_trans {a b c : String} (h : sameFolded a b = true)
    (h' : sameFolded b c = true) : sameFolded a c = true := by
  rw [sameFolded_iff] at *
  exact h.trans h'

/-- What a store compares of a name: the characters up to a NUL, and how many bytes the
whole name takes. -/
def storeKey (s : String) : List Char × Nat :=
  ((fold s).takeWhile (· != '\x00'), s.utf8ByteSize)

/-- A store holds the two names for one. -/
def sameInStore (a b : String) : Bool :=
  storeKey a == storeKey b

theorem sameInStore_iff {a b : String} : sameInStore a b = true ↔ storeKey a = storeKey b := by
  simp [sameInStore]

theorem sameInStore_refl (a : String) : sameInStore a a = true := by
  simp [sameInStore]

theorem sameInStore_comm (a b : String) : sameInStore a b = sameInStore b a := by
  rw [Bool.eq_iff_iff, sameInStore_iff, sameInStore_iff]
  exact eq_comm

end IdentityMap

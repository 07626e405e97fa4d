/-
Unsigned decimal numerals as they stand in SIDs, account files and command lines.

A numeral is one or more ASCII digits, with at most one plus sign in front, whose
value stays below a bound.  Leading zeros are allowed, so one value has many
numerals; `Nat.repr` writes the shortest, and `unsigned?_repr` says it reads back.

Digits of larger bases stand only where a text says so, in escapes and behind a mark of
their base.
-/
namespace IdentityMap.Numeral

/-- The value of a non-empty run of ASCII digits. -/
def digits? (cs : List Char) : Option Nat :=
  if cs ≠ [] ∧ cs.all Char.isDigit then some (Nat.ofDigitChars 10 cs 0) else none

/-- The text of a numeral without its sign. -/
def unsignedBody : List Char → List Char
  | '+' :: rest => rest
  | cs => cs

/-- The value of a numeral below `bound`.  A minus sign is never allowed, not even
before zero. -/
def unsigned? (bound : Nat) (cs : List Char) : Option Nat :=
  (digits? (unsignedBody cs)).filter (· < bound)

/-- A numeral that fits a machine word of 32 bits. -/
def word32? (cs : List Char) : Option UInt32 :=
  (unsigned? 0x100000000 cs).map UInt32.ofNat

theorem unsigned?_lt {bound n : Nat} {cs : List Char} (h : unsigned? bound cs = some n) :
    n < bound := by
  have := (Option.filter_eq_some_iff.mp h).2
  simpa using this

theorem digits?_toDigits (n : Nat) : digits? (Nat.toDigits 10 n) = some n := by
  have hall : (Nat.toDigits 10 n).all Char.isDigit = true :=
    List.all_eq_true.mpr fun c hc => Nat.isDigit_of_mem_toDigits (by omega) (by omega) hc
  rw [digits?, if_pos ⟨Nat.toDigits_ne_nil, hall⟩, Nat.ofDigitChars_ten_toDigits]

theorem unsignedBody_toDigits (n : Nat) : unsignedBody (Nat.toDigits 10 n) = Nat.toDigits 10 n := by
  unfold unsignedBody
  split
  · next rest heq =>
    have : Char.isDigit '+' = true :=
      Nat.isDigit_of_mem_toDigits (b := 10) (n := n) (by omega) (by omega) (by simp [heq])
    simp at this
  · rfl

/-- The shortest numeral of a value below the bound reads back as that value. -/
theorem unsigned?_repr {bound n : Nat} (h : n < bound) :
    unsigned? bound (Nat.repr n).toList = some n := by
  rw [Nat.toList_repr, unsigned?, unsignedBody_toDigits, digits?_toDigits]
  simp [h]

/-! ### Digits of larger bases -/

def isHexDigit (c : Char) : Bool :=
  c.isDigit || ('a' ≤ c && c ≤ 'f') || ('A' ≤ c && c ≤ 'F')

/-- The value of a hexadecimal digit. -/
def digitValue (c : Char) : Nat :=
  if c.isDigit then c.toNat - '0'.toNat else c.toLower.toNat - 'a'.toNat + 10

/-- The value of digits in a base. -/
def valueOf (base : Nat) (digits : List Char) : Nat :=
  digits.foldl (fun n c => n * base + digitValue c) 0

end IdentityMap.Numeral

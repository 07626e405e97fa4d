/-
How SIDs are spelled.

A SID is a revision, an authority and sub-authorities, the last of which is the rid.  A text of it
is a letter and a numeral of each of these numbers, with a dash between any two.  No numeral holds
a dash, so a text says by itself what its numerals are, and the numerals say the numbers.

It does not go back: a number has many numerals, so the numbers have many spellings.
-/
import IdentityMap.Proofs.Numerals
import IdentityMap.Sid.Binary
import Mathlib.Algebra.Group.Nat.Defs
import Mathlib.Data.List.Forall2

namespace IdentityMap.Sid

/-! ### Texts with dashes -/

/-- The parts one after another, with a dash before each. -/
def dashed (parts : List (List Char)) : List Char :=
  parts.flatMap ('-' :: ·)

variable {first : List Char} {rest : List (List Char)}

theorem dashed_cons (part : List Char) (rest : List (List Char)) :
    dashed (part :: rest) = '-' :: (part ++ dashed rest) :=
  rfl

theorem dashed_concat (rest : List (List Char)) (part : List Char) :
    dashed (rest ++ [part]) = dashed rest ++ '-' :: part := by
  simp [dashed]

theorem splitOn_dashed (hfirst : '-' ∉ first) (hrest : ∀ part ∈ rest, '-' ∉ part) :
    (first ++ dashed rest).splitOn '-' = first :: rest := by
  induction rest generalizing first with
  | nil => simpa [dashed] using List.splitOn_eq_singleton hfirst
  | cons part rest ih =>
      have hpart : '-' ∉ part := hrest part (by simp)
      rw [dashed_cons, List.splitOn_append_cons_self_of_not_mem hfirst,
        ih hpart fun other hother => hrest other (by simp [hother])]

theorem intercalate_eq_dashed (first : List Char) (rest : List (List Char)) :
    ['-'].intercalate (first :: rest) = first ++ dashed rest := by
  induction rest generalizing first with
  | nil => simp [dashed]
  | cons part rest ih =>
      rw [List.intercalate_cons_cons, ih, dashed_cons]
      simp

/-! ### Numbers and spellings -/

/-- The numbers of a SID. -/
structure Numbers where
  revision : UInt8
  authority : Nat
  /-- The sub-authorities before the rid. -/
  subs : List UInt32
  rid : UInt32

/-- All sub-authorities. -/
def Numbers.words (n : Numbers) : List UInt32 :=
  n.subs ++ [n.rid]

/-- The letter and the numerals of a SID. -/
structure Spelling where
  letter : Char
  revision : List Char
  authority : List Char
  subs : List (List Char)
  rid : List Char

namespace Spelling

/-- The text up to the last dash. -/
def base (p : Spelling) : List Char :=
  p.letter :: dashed (p.revision :: p.authority :: p.subs)

def chars (p : Spelling) : List Char :=
  p.base ++ '-' :: p.rid

/-- Each numeral writes its number, and the letter is not taken for a dash. -/
structure Writes (p : Spelling) (n : Numbers) : Prop where
  letter : p.letter ≠ '-'
  revision : Numeral.Writes p.revision n.revision.toNat
  authority : Numeral.Writes p.authority n.authority
  subs : List.Forall₂ (fun part (sub : UInt32) => Numeral.Writes part sub.toNat) p.subs n.subs
  rid : Numeral.Writes p.rid n.rid.toNat

/-- The authority and the sub-authorities before the rid are written in the shortest way. -/
structure IsPlain (p : Spelling) : Prop where
  authority : Numeral.IsShortest p.authority
  subs : ∀ part ∈ p.subs, Numeral.IsShortest part

end Spelling

/-- The shortest spelling. -/
def Numbers.spelling (n : Numbers) : Spelling where
  letter := 'S'
  revision := Nat.toDigits 10 n.revision.toNat
  authority := Nat.toDigits 10 n.authority
  subs := n.subs.map fun sub => Nat.toDigits 10 sub.toNat
  rid := Nat.toDigits 10 n.rid.toNat

/-- The SID that directory attributes have for the numbers. -/
def Numbers.sid (n : Numbers) : Sid where
  base := baseOf n.revision n.authority n.subs
  rid := n.rid

variable {p q : Spelling} {n m : Numbers} {parts : List (List Char)} {subs : List UInt32}

/-! ### From a text to its numerals -/

theorem not_mem_of_writes {part : List Char} {value : Nat} (h : Numeral.Writes part value) :
    '-' ∉ part :=
  h.not_mem (by decide) (by decide)

/-- Numerals of words. -/
theorem forall₂_words_iff :
    List.Forall₂ (fun part (sub : UInt32) => Numeral.Writes part sub.toNat) parts subs ↔
      parts.mapM Numeral.word32? = some subs := by
  induction parts generalizing subs with
  | nil =>
      rw [List.forall₂_nil_left_iff, List.mapM_nil]
      exact ⟨fun h => by rw [h]; rfl, fun h => (Option.some.inj h).symm⟩
  | cons part parts ih =>
      rw [List.forall₂_cons_left_iff, List.mapM_cons]
      simp only [Option.bind_eq_bind, Option.bind_eq_some_iff, Numeral.word32?_eq_some_iff, ← ih]
      constructor
      · intro ⟨sub, subs', hsub, hsubs, heq⟩
        exact ⟨sub, hsub, subs', hsubs, by rw [heq]; rfl⟩
      · intro ⟨sub, hsub, subs', hsubs, heq⟩
        exact ⟨sub, subs', hsub, hsubs, (Option.some.inj heq).symm⟩

/-- Parts write words if each of them writes one. -/
theorem exists_words_iff :
    (∃ subs, List.Forall₂ (fun part (sub : UInt32) => Numeral.Writes part sub.toNat) parts subs) ↔
      ∀ part ∈ parts, ∃ sub : UInt32, Numeral.Writes part sub.toNat := by
  induction parts with
  | nil => exact ⟨fun _ => by simp, fun _ => ⟨[], .nil⟩⟩
  | cons part parts ih =>
      rw [List.forall_mem_cons, ← ih]
      constructor
      · intro ⟨_, h⟩
        cases h with
        | cons hsub hsubs => exact ⟨⟨_, hsub⟩, ⟨_, hsubs⟩⟩
      · intro ⟨⟨_, hsub⟩, ⟨_, hsubs⟩⟩
        exact ⟨_, .cons hsub hsubs⟩

namespace Spelling

theorem Writes.not_mem_of_mem (h : p.Writes n) {part : List Char}
    (hpart : part ∈ p.revision :: p.authority :: p.subs) : '-' ∉ part := by
  rcases List.mem_cons.mp hpart with rfl | hpart
  · exact not_mem_of_writes h.revision
  rcases List.mem_cons.mp hpart with rfl | hpart
  · exact not_mem_of_writes h.authority
  obtain ⟨_, hsub⟩ := exists_words_iff.mp ⟨_, h.subs⟩ part hpart
  exact not_mem_of_writes hsub

theorem Writes.splitOn_base (h : p.Writes n) :
    p.base.splitOn '-' = [p.letter] :: p.revision :: p.authority :: p.subs := by
  have hfirst : '-' ∉ [p.letter] := by simpa using h.letter.symm
  exact splitOn_dashed hfirst fun _ hpart => h.not_mem_of_mem hpart

/-- Spellings of one base have the same numerals in it. -/
theorem Writes.base_inj (h : p.Writes n) (h' : q.Writes m) (heq : p.base = q.base) :
    p.authority = q.authority ∧ p.subs = q.subs := by
  have hsplit : p.base.splitOn '-' = q.base.splitOn '-' := by rw [heq]
  rw [h.splitOn_base, h'.splitOn_base] at hsplit
  simp only [List.cons.injEq] at hsplit
  exact hsplit.2.2

end Spelling

/-- The numbers of a SID are those that its base writes, unless the authority is too large for
six bytes. -/
theorem header?_of_writes {s : Sid} (hbase : s.base.toList = p.base) (h : p.Writes n) :
    s.header? = if n.authority < 2 ^ 48 then some (n.revision, n.authority, n.subs) else none := by
  have hrevision : Numeral.unsigned? 0x100 p.revision = some n.revision.toNat :=
    Numeral.unsigned?_eq_some_iff.mpr ⟨h.revision, n.revision.toNat_lt⟩
  have hsubs := forall₂_words_iff.mp h.subs
  rw [header?, hbase, h.splitOn_base]
  show (Numeral.unsigned? 0x100 p.revision).bind (fun revision =>
    (Numeral.unsigned? 0x10000000000000000 p.authority).bind fun authority =>
    (guard (authority < 0x1000000000000) : Option Unit).bind fun _ =>
    (p.subs.mapM Numeral.word32?).bind fun subs =>
      some (UInt8.ofNat revision, authority, subs)) = _
  rw [hrevision, Option.bind_some]
  by_cases hlt : n.authority < 2 ^ 48
  · have hauthority : Numeral.unsigned? 0x10000000000000000 p.authority = some n.authority :=
      Numeral.unsigned?_eq_some_iff.mpr ⟨h.authority, by omega⟩
    have hguard : (guard (n.authority < 0x1000000000000) : Option Unit) = some () := if_pos hlt
    rw [if_pos hlt, hauthority, Option.bind_some, hguard, Option.bind_some, hsubs,
      Option.bind_some, UInt8.ofNat_toNat]
  · rw [if_neg hlt]
    cases hauthority : Numeral.unsigned? 0x10000000000000000 p.authority with
    | none => rfl
    | some authority =>
        have hvalue : authority = n.authority :=
          (Numeral.unsigned?_eq_some_iff.mp hauthority).1.unique h.authority
        have hguard : (guard (n.authority < 0x1000000000000) : Option Unit) = none := if_neg hlt
        rw [Option.bind_some, hvalue, hguard, Option.bind_none]

/-! ### The shortest spelling -/

theorem writes_spelling (n : Numbers) : n.spelling.Writes n where
  letter := by
    show 'S' ≠ '-'
    decide
  revision := .plain (Numeral.digits_toDigits n.revision.toNat)
  authority := .plain (Numeral.digits_toDigits n.authority)
  subs := List.forall₂_map_left_iff.mpr
    (List.forall₂_same.mpr fun sub _ => .plain (Numeral.digits_toDigits sub.toNat))
  rid := .plain (Numeral.digits_toDigits n.rid.toNat)

theorem toList_foldl_base (base : String) (subs : List UInt32) :
    (subs.foldl (fun acc sub => acc ++ "-" ++ Nat.repr sub.toNat) base).toList
      = base.toList ++ dashed (subs.map fun sub => Nat.toDigits 10 sub.toNat) := by
  induction subs generalizing base with
  | nil => simp [dashed]
  | cons sub subs ih =>
      rw [List.foldl_cons, ih, List.map_cons, dashed_cons, String.toList_append,
        String.toList_append, Nat.toList_repr]
      simp

/-- The base that directory attributes give is spelled in the shortest way. -/
theorem toList_base_sid (n : Numbers) : n.sid.base.toList = n.spelling.base := by
  show (baseOf n.revision n.authority n.subs).toList = _
  rw [baseOf, toList_foldl_base]
  simp [Numbers.spelling, Spelling.base, dashed_cons]

end IdentityMap.Sid

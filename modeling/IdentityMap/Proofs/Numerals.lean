/-
Which texts are numerals, and which of them is the shortest.

A numeral is digits with at most one plus sign in front.  Zeros and the sign may be added to
the front of one without changing its value, so a value has many numerals.  Only one of them
has neither, and that is the one that printing gives.
-/
import IdentityMap.Text.Numeral
import Mathlib.Data.List.Induction

namespace IdentityMap.Numeral

/-- One or more ASCII digits, and the number they write in base ten. -/
inductive Digits : List Char → Nat → Prop
  | one {c : Char} (digit : c.isDigit = true) : Digits [c] (c.toNat - '0'.toNat)
  | more {cs : List Char} {n : Nat} {c : Char} (digits : Digits cs n) (digit : c.isDigit = true) :
      Digits (cs ++ [c]) (10 * n + (c.toNat - '0'.toNat))

/-- Digits with at most one plus sign in front, and the number they write. -/
inductive Writes : List Char → Nat → Prop
  | plain {cs : List Char} {n : Nat} (digits : Digits cs n) : Writes cs n
  | signed {cs : List Char} {n : Nat} (digits : Digits cs n) : Writes ('+' :: cs) n

/-- There is no sign and no zero to leave out. -/
def IsShortest (cs : List Char) : Prop :=
  cs.head? ≠ some '+' ∧ (cs.head? = some '0' → cs = ['0'])

variable {cs : List Char} {n bound : Nat}

/-! ### Reading -/

theorem Digits.ne_nil (h : Digits cs n) : cs ≠ [] := by
  cases h with
  | one _ => simp
  | more _ _ => simp

theorem Digits.isDigit (h : Digits cs n) : ∀ c ∈ cs, c.isDigit = true := by
  induction h with
  | one hdigit =>
      intro c hc
      rw [List.mem_singleton.mp hc]
      exact hdigit
  | more _ hdigit ih =>
      intro c hc
      rcases List.mem_append.mp hc with hc | hc
      · exact ih c hc
      · rw [List.mem_singleton.mp hc]
        exact hdigit

theorem Digits.ofDigitChars (h : Digits cs n) : Nat.ofDigitChars 10 cs 0 = n := by
  induction h with
  | one _ => simp [Nat.ofDigitChars_cons]
  | more _ _ ih => rw [Nat.ofDigitChars_append, ih, Nat.ofDigitChars_cons, Nat.ofDigitChars_nil]

/-- Digits write a number, by induction from the last one. -/
theorem digits_ofDigitChars (hne : cs ≠ []) (h : ∀ c ∈ cs, c.isDigit = true) :
    Digits cs (Nat.ofDigitChars 10 cs 0) := by
  induction cs using List.reverseRecOn with
  | nil => exact absurd rfl hne
  | append_singleton cs c ih =>
      have hc : c.isDigit = true := h c (by simp)
      by_cases hnil : cs = []
      · subst hnil
        simpa [Nat.ofDigitChars_cons] using Digits.one hc
      · rw [Nat.ofDigitChars_append, Nat.ofDigitChars_cons, Nat.ofDigitChars_nil]
        exact .more (ih hnil fun d hd => h d (by simp [hd])) hc

theorem digits?_eq_some_iff : digits? cs = some n ↔ Digits cs n := by
  rw [digits?]
  constructor
  · intro h
    by_cases hcs : cs ≠ [] ∧ cs.all Char.isDigit = true
    · rw [if_pos hcs] at h
      rw [← Option.some.inj h]
      exact digits_ofDigitChars hcs.1 (List.all_eq_true.mp hcs.2)
    · rw [if_neg hcs] at h
      cases h
  · intro h
    rw [if_pos ⟨h.ne_nil, List.all_eq_true.mpr h.isDigit⟩, h.ofDigitChars]

theorem Digits.head?_ne (h : Digits cs n) {c : Char} (hc : c.isDigit = false) :
    cs.head? ≠ some c := by
  intro hhead
  have hdigit := h.isDigit c (List.mem_of_head? hhead)
  rw [hc] at hdigit
  cases hdigit

/-- The sign stands in front of digits only, so that a text is read in one way. -/
theorem writes_iff_digits : Writes cs n ↔ Digits (unsignedBody cs) n := by
  unfold unsignedBody
  split
  · next rest =>
    constructor
    · intro h
      cases h with
      | plain hdigits => exact absurd rfl (hdigits.head?_ne (c := '+') (by decide))
      | signed hdigits => exact hdigits
    · exact .signed
  · next hplain =>
    constructor
    · intro h
      cases h with
      | plain hdigits => exact hdigits
      | signed _ => exact absurd rfl (hplain _)
    · exact .plain

/-- A text is read as a number just when it is a numeral of it and the number is in bounds. -/
theorem unsigned?_eq_some_iff : unsigned? bound cs = some n ↔ Writes cs n ∧ n < bound := by
  rw [unsigned?, Option.filter_eq_some_iff, digits?_eq_some_iff, writes_iff_digits,
    decide_eq_true_eq]

theorem word32?_eq_some_iff {word : UInt32} : word32? cs = some word ↔ Writes cs word.toNat := by
  rw [word32?, Option.map_eq_some_iff]
  constructor
  · intro ⟨n, hn, hword⟩
    obtain ⟨hwrites, hlt⟩ := unsigned?_eq_some_iff.mp hn
    rw [← hword, UInt32.toNat_ofNat_of_lt' hlt]
    exact hwrites
  · intro h
    exact ⟨word.toNat, unsigned?_eq_some_iff.mpr ⟨h, word.toNat_lt⟩, UInt32.ofNat_toNat⟩

/-- A numeral has one value. -/
theorem Writes.unique {m : Nat} (h : Writes cs n) (h' : Writes cs m) : n = m := by
  rw [writes_iff_digits] at h h'
  exact h.ofDigitChars.symm.trans h'.ofDigitChars

/-- Only a sign and digits stand in a numeral. -/
theorem Writes.not_mem (h : Writes cs n) {c : Char} (hc : c.isDigit = false) (hsign : c ≠ '+') :
    c ∉ cs := by
  intro hmem
  have hdigit : c.isDigit = true := by
    cases h with
    | plain hdigits => exact hdigits.isDigit c hmem
    | signed hdigits => exact hdigits.isDigit c ((List.mem_cons.mp hmem).resolve_left hsign)
  rw [hc] at hdigit
  cases hdigit

/-! ### The shortest numeral -/

theorem digits_toDigits (n : Nat) : Digits (Nat.toDigits 10 n) n :=
  digits?_eq_some_iff.mp (digits?_toDigits n)

theorem toNat_sub_lt {c : Char} (h : c.isDigit = true) : c.toNat - '0'.toNat < 10 := by
  have hc : c.toNat ≤ '9'.toNat := (Char.isDigit_iff_toNat.mp h).2
  have hnine : '9'.toNat = 57 := rfl
  have hzero : '0'.toNat = 48 := rfl
  omega

theorem digitChar_toNat_sub {c : Char} (h : c.isDigit = true) :
    Nat.digitChar (c.toNat - '0'.toNat) = c := by
  have hc : '0'.toNat ≤ c.toNat := (Char.isDigit_iff_toNat.mp h).1
  refine Char.toNat_inj.mp ?_
  rw [Nat.toNat_digitChar_of_lt_ten (toNat_sub_lt h)]
  show '0'.toNat + (c.toNat - '0'.toNat) = c.toNat
  omega

/-- Digits without a zero in front are those that printing gives.  A digit behind others finds
a positive number in front of it, because zero alone would be a zero in front. -/
theorem Digits.eq_toDigits (h : Digits cs n) (hzero : cs.head? = some '0' → cs = ['0']) :
    cs = Nat.toDigits 10 n := by
  induction h with
  | one hdigit => rw [Nat.toDigits_of_lt_base (toNat_sub_lt hdigit), digitChar_toNat_sub hdigit]
  | @more cs n c hdigits hdigit ih =>
      have hhead : cs.head? ≠ some '0' := by
        intro hhead
        have hall := hzero (by rw [List.head?_append, hhead]; rfl)
        have hlength : (cs ++ [c]).length = 1 := by rw [hall]; rfl
        have hpos := List.length_pos_iff.mpr hdigits.ne_nil
        rw [List.length_append, List.length_singleton] at hlength
        omega
      have hcs := ih fun hhead' => absurd hhead' hhead
      have hpos : 0 < n := by
        rcases Nat.eq_zero_or_pos n with rfl | hpos
        · rw [hcs] at hhead
          exact absurd rfl hhead
        · exact hpos
      rw [← Nat.toDigits_append_toDigits (by decide) hpos (toNat_sub_lt hdigit), ← hcs,
        Nat.toDigits_of_lt_base (toNat_sub_lt hdigit), digitChar_toNat_sub hdigit]

theorem head?_toDigits_of_pos (h : 0 < n) : (Nat.toDigits 10 n).head? ≠ some '0' := by
  induction n using Nat.strongRecOn with
  | ind n ih =>
      by_cases hlt : n < 10
      · rw [Nat.toDigits_of_lt_base hlt]
        intro hhead
        have := Nat.digitChar_eq_zero.mp (Option.some.inj hhead)
        omega
      · intro hhead
        rw [Nat.toDigits_of_base_le (by decide) (Nat.le_of_not_lt hlt), List.head?_append] at hhead
        cases hfirst : (Nat.toDigits 10 (n / 10)).head? with
        | none => exact absurd (List.head?_eq_none_iff.mp hfirst) Nat.toDigits_ne_nil
        | some c =>
            rw [hfirst] at hhead
            exact ih (n / 10) (by omega) (by omega) (hfirst.trans hhead)

theorem isShortest_toDigits (n : Nat) : IsShortest (Nat.toDigits 10 n) := by
  constructor
  · exact (digits_toDigits n).head?_ne (by decide)
  · intro hhead
    rcases Nat.eq_zero_or_pos n with rfl | hpos
    · rfl
    · exact absurd hhead (head?_toDigits_of_pos hpos)

/-- **Printing gives the one numeral of a value that has neither a sign nor a zero in front.** -/
theorem Writes.isShortest_iff (h : Writes cs n) : IsShortest cs ↔ cs = Nat.toDigits 10 n := by
  constructor
  · intro ⟨hsign, hzero⟩
    cases h with
    | plain hdigits => exact hdigits.eq_toDigits hzero
    | signed _ => exact absurd rfl hsign
  · intro heq
    rw [heq]
    exact isShortest_toDigits n

end IdentityMap.Numeral

/-
Texts that are taken apart at a character and trimmed.

A character that is no blank keeps what stands before it and what stands behind it apart, so that
each of the two is trimmed at one end.
-/
import IdentityMap.Text.Blank
import Mathlib.Data.List.DropRight

namespace IdentityMap

variable {text before after : List Char} {c : Char}

/-- No blank stands at either end. -/
structure IsTrimmed (text : List Char) : Prop where
  head : ∀ c ∈ text.head?, isBlank c = false
  last : ∀ c ∈ text.getLast?, isBlank c = false

theorem trimChars_eq (text : List Char) :
    trimChars text = (text.dropWhile isBlank).rdropWhile isBlank :=
  rfl

theorem IsTrimmed.dropWhile_eq (h : IsTrimmed text) : text.dropWhile isBlank = text := by
  cases text with
  | nil => rfl
  | cons c rest =>
      have hhead := h.head c rfl
      rw [List.dropWhile_cons, hhead]
      rfl

theorem IsTrimmed.rdropWhile_eq (h : IsTrimmed text) : text.rdropWhile isBlank = text := by
  refine List.rdropWhile_eq_self_iff.mpr fun hne => ?_
  rw [h.last _ (List.getLast?_eq_getLast_of_ne_nil hne)]
  exact Bool.false_ne_true

theorem trimChars_eq_self (h : IsTrimmed text) : trimChars text = text := by
  rw [trimChars_eq, h.dropWhile_eq, h.rdropWhile_eq]

theorem IsTrimmed.of_any (h : text.any isBlank = false) : IsTrimmed text where
  head c hc := by simpa using List.any_eq_false.mp h c (List.mem_of_mem_head? hc)
  last c hc := by simpa using List.any_eq_false.mp h c (List.mem_of_mem_getLast? hc)

theorem trimChars_dropWhile (text : List Char) :
    trimChars (text.dropWhile isBlank) = trimChars text := by
  rw [trimChars_eq, List.dropWhile_idempotent, trimChars_eq]

theorem mem_of_mem_trimChars (h : c ∈ trimChars text) : c ∈ text :=
  (List.dropWhile_suffix _).subset ((List.rdropWhile_prefix _ _).subset h)

theorem dropWhile_append_cons (h : isBlank c = false) :
    (before ++ c :: after).dropWhile isBlank = before.dropWhile isBlank ++ c :: after := by
  induction before with
  | nil => simp [h]
  | cons b before ih =>
      rw [List.cons_append, List.dropWhile_cons, List.dropWhile_cons]
      split
      · exact ih
      · rfl

/-- Each side of such a character is trimmed where the text ends. -/
theorem trimChars_append_cons (h : isBlank c = false) :
    trimChars (before ++ c :: after)
      = before.dropWhile isBlank ++ c :: after.rdropWhile isBlank := by
  rw [trimChars_eq, dropWhile_append_cons h, List.rdropWhile, List.reverse_append,
    List.reverse_cons, List.append_assoc, List.singleton_append, dropWhile_append_cons h]
  simp [List.rdropWhile]

end IdentityMap

/-
Texts that are taken apart at a character.

Each part goes up to the next separator, or to the end.  So the first part of a text and the parts
of what comes behind it say everything about its parts.
-/
import Mathlib.Data.List.Basic

namespace IdentityMap

variable {α : Type} [BEq α] [LawfulBEq α] {sep : α} {text first : List α} {rest : List (List α)}

/-- The first part ends with the text, or before a separator behind which the others stand. -/
theorem splitOn_eq_cons_iff :
    text.splitOn sep = first :: rest ↔
      sep ∉ first ∧
        ((text = first ∧ rest = []) ∨ ∃ tail, text = first ++ sep :: tail ∧
          tail.splitOn sep = rest) := by
  constructor
  · intro h
    by_cases hmem : sep ∈ text
    · obtain ⟨first', tail, rfl, hnot⟩ := List.eq_append_cons_of_mem hmem
      rw [List.splitOn_append_cons_self_of_not_mem hnot] at h
      obtain ⟨rfl, rfl⟩ := List.cons.inj h
      exact ⟨hnot, .inr ⟨tail, rfl, rfl⟩⟩
    · rw [List.splitOn_eq_singleton hmem] at h
      obtain ⟨rfl, rfl⟩ := List.cons.inj h
      exact ⟨hmem, .inl ⟨rfl, rfl⟩⟩
  · rintro ⟨hnot, ⟨rfl, rfl⟩ | ⟨tail, rfl, rfl⟩⟩
    · exact List.splitOn_eq_singleton hnot
    · exact List.splitOn_append_cons_self_of_not_mem hnot tail

/-- What holds no separator goes to the first part. -/
theorem splitOn_append_of_not_mem {before : List α} (hbefore : sep ∉ before)
    (h : text.splitOn sep = first :: rest) :
    (before ++ text).splitOn sep = (before ++ first) :: rest := by
  obtain ⟨hfirst, htext⟩ := splitOn_eq_cons_iff.mp h
  refine splitOn_eq_cons_iff.mpr ⟨by simp [hbefore, hfirst], ?_⟩
  rcases htext with ⟨rfl, hrest⟩ | ⟨tail, rfl, hrest⟩
  · exact .inl ⟨rfl, hrest⟩
  · exact .inr ⟨tail, by rw [List.append_assoc], hrest⟩

/-- The parts of texts that are joined are the parts of each. -/
theorem splitOn_intercalate_eq_flatMap {texts : List (List α)} (h : texts ≠ []) :
    ([sep].intercalate texts).splitOn sep = texts.flatMap (·.splitOn sep) := by
  induction texts with
  | nil => exact absurd rfl h
  | cons text texts ih =>
      cases texts with
      | nil => simp
      | cons next texts =>
          have hjoin : [sep].intercalate (text :: next :: texts)
              = text ++ sep :: [sep].intercalate (next :: texts) := by
            simp [List.intercalate_cons_cons]
          rw [hjoin, List.splitOn_append_cons_self, ih (by simp)]
          rfl

omit [BEq α] [LawfulBEq α] in
/-- What is joined is made of the texts and of separators. -/
theorem mem_intercalate {texts : List (List α)} {x : α} (h : x ∈ [sep].intercalate texts) :
    x = sep ∨ ∃ text ∈ texts, x ∈ text := by
  induction texts with
  | nil => cases h
  | cons text texts ih =>
      cases texts with
      | nil => exact .inr ⟨text, by simp, by simpa using h⟩
      | cons next texts =>
          rw [List.intercalate_cons_cons, List.append_assoc, List.mem_append] at h
          rcases h with h | h
          · exact .inr ⟨text, by simp, h⟩
          rcases List.mem_cons.mp h with rfl | h
          · exact .inl rfl
          · refine (ih h).imp_right ?_
            rintro ⟨other, hother, hx⟩
            exact ⟨other, List.mem_cons_of_mem _ hother, hx⟩

end IdentityMap

/-
Rows in the order in which they were written.

A table is a list of rows, oldest first.  Writing a row removes every row that holds
the same key and puts the new row last.  A key is made of columns that may be empty;
an empty column equals nothing, itself included, so a row with an empty key column
never stands in the way of another.
-/
namespace IdentityMap.Table

/-- Two key columns hold the same value.  Empty columns never do. -/
def sameKey {α : Type} [DecidableEq α] : Option α → Option α → Bool
  | some a, some b => a == b
  | _, _ => false

/-- Writes `row` in place of all rows that collide with it. -/
def put {ρ : Type} (collides : ρ → ρ → Bool) (row : ρ) (rows : List ρ) : List ρ :=
  rows.filter (fun old => !collides old row) ++ [row]

/-! ### What a key column says -/

theorem sameKey_iff {α : Type} [DecidableEq α] {a b : Option α} :
    sameKey a b = true ↔ ∃ x, a = some x ∧ b = some x := by
  match a, b with
  | some a, some b =>
    simp only [sameKey, beq_iff_eq, Option.some.injEq, exists_eq_left']
    exact eq_comm
  | none, _ => simp [sameKey]
  | some _, none => simp [sameKey]

theorem sameKey_comm {α : Type} [DecidableEq α] (a b : Option α) : sameKey a b = sameKey b a := by
  rw [Bool.eq_iff_iff, sameKey_iff, sameKey_iff]
  constructor <;> (rintro ⟨x, h, h'⟩; exact ⟨x, h', h⟩)

/-! ### What a write leaves -/

theorem mem_put {ρ : Type} {collides : ρ → ρ → Bool} {row r : ρ} {rows : List ρ} :
    r ∈ put collides row rows ↔ r = row ∨ (r ∈ rows ∧ collides r row = false) := by
  simp [put, or_comm]

/-- The rows that stay keep their order, and the new row is the last one. -/
theorem put_eq_append {ρ : Type} (collides : ρ → ρ → Bool) (row : ρ) (rows : List ρ) :
    ∃ kept, kept.Sublist rows ∧ put collides row rows = kept ++ [row] :=
  ⟨_, List.filter_sublist, rfl⟩

/-- A row makes room for itself, so it shares no key with the rows that stay. -/
theorem pairwise_put {ρ : Type} {collides : ρ → ρ → Bool} {row : ρ} {rows : List ρ}
    (h : rows.Pairwise fun a b => collides a b = false) :
    (put collides row rows).Pairwise fun a b => collides a b = false := by
  refine List.pairwise_append.mpr ⟨h.filter _, List.pairwise_singleton _ _, ?_⟩
  intro old hold new hnew
  obtain rfl := List.mem_singleton.mp hnew
  simpa using (List.mem_filter.mp hold).2

end IdentityMap.Table

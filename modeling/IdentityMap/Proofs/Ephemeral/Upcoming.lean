/-
The numbers that an allocator hands out next.

With consecutive blocks they are known beforehand: what is left of the block of a kind, and
then whatever the authority has not granted.  `upcoming` reads them off the state, and handing
out one of them moves the others up by one.

Nothing is asked of the state.  If the authority granted blocks to somebody else, there is a
gap behind the block; if not, the numbers are consecutive.

A refusal changes nothing.  So whoever is refused an id once is refused it ever after.
-/
import IdentityMap.Proofs.Ephemeral.Minting

namespace IdentityMap.Allocator

variable {a a' : Allocator SequentialIds} {blockSize : Nat} {kind other : IdKind}
  {number : UInt32} {failure : Failure}

/-! ### What handing out does -/

/-- An id is the next one of the block, or the first one of a new block. -/
theorem allocate_ok_cases
    (h : allocate SequentialIds.authority blockSize kind a = (.ok number, a')) :
    ((a.window kind).next < (a.window kind).limit ∧ number = UInt32.ofNat (a.window kind).next ∧
      a' = a.withWindow { (a.window kind) with next := (a.window kind).next + 1 } kind) ∨
    (¬(a.window kind).next < (a.window kind).limit ∧
      a.authority.next kind + max 1 blockSize ≤ sentinelId.toNat ∧
      number = UInt32.ofNat (a.authority.next kind) ∧
      a' = ({ a with
            authority := a.authority.withNext (a.authority.next kind + max 1 blockSize) kind } :
          Allocator SequentialIds).withWindow
        { next := number.toNat + 1, limit := number.toNat + max 1 blockSize } kind) := by
  unfold allocate at h
  by_cases hw : (a.window kind).next < (a.window kind).limit
  · simp only [if_pos hw] at h
    cases h
    exact Or.inl ⟨hw, rfl, rfl⟩
  · simp only [if_neg hw, SequentialIds.authority, SequentialIds.grant] at h
    by_cases hgrant : a.authority.next kind + max 1 blockSize ≤ sentinelId.toNat
    · simp only [if_pos hgrant] at h
      cases h
      exact Or.inr ⟨hw, hgrant, rfl, rfl⟩
    · simp only [if_neg hgrant] at h
      cases h

/-! ### Refusals -/

/-- The allocator has no more ids of the kind, and says so. -/
def Refuses (a : Allocator SequentialIds) (blockSize : Nat) (kind : IdKind) (failure : Failure) :
    Prop :=
  allocate SequentialIds.authority blockSize kind a = (.error failure, a)

/-- The block is used up, and another one would reach the sentinel. -/
theorem refuses_iff :
    a.Refuses blockSize kind failure ↔
      ¬(a.window kind).next < (a.window kind).limit ∧
      ¬a.authority.next kind + max 1 blockSize ≤ sentinelId.toNat ∧
      failure = .noFreeId (kind.text ++ " space exhausted") := by
  unfold Refuses allocate
  by_cases hw : (a.window kind).next < (a.window kind).limit
  · simp [hw]
  · simp only [if_neg hw, SequentialIds.authority, SequentialIds.grant]
    by_cases hgrant : a.authority.next kind + max 1 blockSize ≤ sentinelId.toNat
    · simp [hgrant]
    · simp only [hw, not_false_eq_true, true_and, hgrant]
      constructor
      · intro h
        exact (Except.error.inj (Prod.mk.inj h).1).symm
      · rintro rfl
        rfl

/-- An id that is refused leaves the allocator as it was. -/
theorem refuses_of_error
    (h : allocate SequentialIds.authority blockSize kind a = (.error failure, a')) :
    a' = a ∧ a.Refuses blockSize kind failure := by
  have hsame : a' = a := by
    unfold allocate at h
    by_cases hw : (a.window kind).next < (a.window kind).limit
    · simp only [if_pos hw] at h
      cases h
    · simp only [if_neg hw, SequentialIds.authority, SequentialIds.grant] at h
      by_cases hgrant : a.authority.next kind + max 1 blockSize ≤ sentinelId.toNat
      · simp only [if_pos hgrant] at h
        cases h
      · simp only [if_neg hgrant] at h
        cases h
        rfl
  rw [hsame] at h
  exact ⟨hsame, h⟩

/-- Handing out ids of the other kind does not help. -/
theorem Refuses.allocate (hrefuses : a.Refuses blockSize kind failure)
    (h : allocate SequentialIds.authority blockSize other a = (.ok number, a')) :
    a'.Refuses blockSize kind failure := by
  have hother : kind ≠ other := by
    rintro rfl
    rw [hrefuses] at h
    cases h
  obtain ⟨hw, hgrant, hfailure⟩ := refuses_iff.mp hrefuses
  rcases allocate_ok_cases h with ⟨-, -, rfl⟩ | ⟨-, -, -, rfl⟩
  · refine refuses_iff.mpr ⟨?_, ?_, hfailure⟩
    · rwa [window_withWindow_of_ne hother]
    · rwa [authority_withWindow]
  · refine refuses_iff.mpr ⟨?_, ?_, hfailure⟩
    · rwa [window_withWindow_of_ne hother, window_setAuthority]
    · rwa [authority_withWindow, SequentialIds.next_withNext_of_ne hother]

/-! ### The next numbers -/

/-- The numbers of a kind that are handed out next, the first one at 0. -/
def upcoming (a : Allocator SequentialIds) (kind : IdKind) (i : Nat) : Nat :=
  if (a.window kind).next + i < (a.window kind).limit then (a.window kind).next + i
  else a.authority.next kind + (i - ((a.window kind).limit - (a.window kind).next))

/-- Without a gap behind the block the numbers are consecutive. -/
theorem upcoming_eq (hc : a.Contiguous) (kind : IdKind) (i : Nat) :
    a.upcoming kind i = a.frontier kind + i := by
  unfold upcoming frontier
  by_cases hw : (a.window kind).next < (a.window kind).limit
  · have hlimit := (hc kind hw).1
    rw [if_pos hw]
    split
    · rfl
    · omega
  · rw [if_neg hw, if_neg (by omega)]
    omega

/-- What is handed out is the first of the upcoming numbers, and the others move up. -/
theorem upcoming_allocate
    (h : allocate SequentialIds.authority blockSize kind a = (.ok number, a')) :
    number = UInt32.ofNat (a.upcoming kind 0) ∧
      (∀ i, a'.upcoming kind i = a.upcoming kind (i + 1)) ∧
      ∀ other, other ≠ kind → ∀ i, a'.upcoming other i = a.upcoming other i := by
  rcases allocate_ok_cases h with ⟨hw, rfl, rfl⟩ | ⟨hw, hgrant, rfl, rfl⟩
  · refine ⟨?_, fun i => ?_, fun other hother i => ?_⟩
    · rw [upcoming, Nat.add_zero, if_pos hw]
    · simp only [upcoming, window_withWindow_self, authority_withWindow]
      split <;> split <;> omega
    · simp only [upcoming, window_withWindow_of_ne hother, authority_withWindow]
  · have hnumber : (UInt32.ofNat (a.authority.next kind)).toNat = a.authority.next kind :=
      toNat_ofNat_of_lt_sentinel (by omega)
    refine ⟨?_, fun i => ?_, fun other hother i => ?_⟩
    · rw [upcoming, Nat.add_zero, if_neg hw, Nat.zero_sub, Nat.add_zero]
    · simp only [upcoming, window_withWindow_self, authority_withWindow, hnumber,
        SequentialIds.next_withNext_self]
      split <;> split <;> omega
    · simp only [upcoming, window_withWindow_of_ne hother, authority_withWindow,
        window_setAuthority, SequentialIds.next_withNext_of_ne hother]

end IdentityMap.Allocator

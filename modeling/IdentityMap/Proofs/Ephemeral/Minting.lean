/-
Who got which minted id.

A sequential allocator counts upwards: what is left of a block ends where the authority
goes on, so there is one number, the frontier of a kind, that is handed out next, and all
that were handed out before lie below it.  That is why no id is handed out twice, whatever
the size of the blocks.

The ids that were handed out are written down in a book that the program does not have.
An entry of the book is never taken back, and an id has one SID in it.  `Book.Kept` says
that of a book and an allocator, and `Book.Covers` says it of a batch under way, whose
history may only name what stands in the book.
-/
import Mathlib.Order.Basic
import IdentityMap.Ephemeral.History

namespace IdentityMap

/-! ### The frontier of a sequential allocator -/

namespace SequentialIds

variable {ids : SequentialIds} {kind : IdKind} {n : Nat}

@[simp] theorem next_withNext_self : (ids.withNext n kind).next kind = n := by
  cases kind <;> rfl

theorem next_withNext_of_ne {other : IdKind} (h : other ≠ kind) :
    (ids.withNext n kind).next other = ids.next other := by
  cases kind <;> cases other <;> first | rfl | exact absurd rfl h

end SequentialIds

namespace Allocator

section Window

variable {α : Type} {a : Allocator α} {w : IdWindow} {kind : IdKind}

@[simp] theorem window_withWindow_self : (a.withWindow w kind).window kind = w := by
  cases kind <;> rfl

theorem window_withWindow_of_ne {other : IdKind} (h : other ≠ kind) :
    (a.withWindow w kind).window other = a.window other := by
  cases kind <;> cases other <;> first | rfl | exact absurd rfl h

@[simp] theorem authority_withWindow : (a.withWindow w kind).authority = a.authority := by
  cases kind <;> rfl

@[simp] theorem window_setAuthority {state : α} :
    ({ a with authority := state } : Allocator α).window kind = a.window kind := by
  cases kind <;> rfl

end Window

/-- The number of a kind that is handed out next. -/
def frontier (a : Allocator SequentialIds) (kind : IdKind) : Nat :=
  if (a.window kind).next < (a.window kind).limit then (a.window kind).next
  else a.authority.next kind

/-- What is left of a block ends where the next block begins, and not behind the sentinel. -/
def Contiguous (a : Allocator SequentialIds) : Prop :=
  ∀ kind, (a.window kind).next < (a.window kind).limit →
    (a.window kind).limit = a.authority.next kind ∧ (a.window kind).limit ≤ sentinelId.toNat

/-- What handing out one number of a kind does: it is the frontier, which moves on by one,
and the frontier of the other kind stays. -/
structure HandsOut (a : Allocator SequentialIds) (kind : IdKind) (number : UInt32)
    (a' : Allocator SequentialIds) : Prop where
  number_eq : number.toNat = a.frontier kind
  number_lt : number.toNat < sentinelId.toNat
  next : a'.frontier kind = a.frontier kind + 1
  frame : ∀ other, other ≠ kind → a'.frontier other = a.frontier other
  contiguous : a'.Contiguous

/-- An allocator that was never asked begins where its authority does. -/
theorem frontier_fresh (ids : SequentialIds) (kind : IdKind) :
    ({ authority := ids } : Allocator SequentialIds).frontier kind = ids.next kind := by
  cases kind <;> rfl

theorem contiguous_fresh (ids : SequentialIds) :
    ({ authority := ids } : Allocator SequentialIds).Contiguous := by
  intro kind h
  cases kind <;> exact absurd h (Nat.lt_irrefl 0)

theorem toNat_ofNat_of_lt_sentinel {n : Nat} (h : n < sentinelId.toNat) :
    (UInt32.ofNat n).toNat = n := by
  have hsentinel : sentinelId.toNat = 0xFFFFFFFF := rfl
  rw [UInt32.toNat_ofNat']
  omega

variable {a : Allocator SequentialIds} {kind : IdKind}

/-- Handing out from a block that is not used up. -/
theorem handsOut_window (hc : a.Contiguous) (hw : (a.window kind).next < (a.window kind).limit) :
    a.HandsOut kind (UInt32.ofNat (a.window kind).next)
      (a.withWindow { (a.window kind) with next := (a.window kind).next + 1 } kind) := by
  obtain ⟨hlimit, hsentinel⟩ := hc kind hw
  have hlt : (a.window kind).next < sentinelId.toNat := Nat.lt_of_lt_of_le hw hsentinel
  have hnumber := toNat_ofNat_of_lt_sentinel hlt
  have hfrontier : a.frontier kind = (a.window kind).next := by rw [frontier, if_pos hw]
  refine ⟨by rw [hnumber, hfrontier], by rw [hnumber]; exact hlt, ?_, ?_, ?_⟩
  · rw [hfrontier]
    simp only [frontier, window_withWindow_self, authority_withWindow]
    by_cases hlast : (a.window kind).next + 1 < (a.window kind).limit
    · rw [if_pos hlast]
    · rw [if_neg hlast]
      omega
  · intro other hother
    simp only [frontier, window_withWindow_of_ne hother, authority_withWindow]
  · intro k hk
    by_cases hsame : k = kind
    · subst hsame
      simp only [window_withWindow_self, authority_withWindow] at hk ⊢
      exact ⟨hlimit, hsentinel⟩
    · simp only [window_withWindow_of_ne hsame, authority_withWindow] at hk ⊢
      exact hc k hk

/-- Handing out the first number of a block that was granted just now. -/
theorem handsOut_block {count : Nat} (hc : a.Contiguous)
    (hw : ¬(a.window kind).next < (a.window kind).limit) (hcount : 0 < count)
    (hgrant : a.authority.next kind + count ≤ sentinelId.toNat) :
    a.HandsOut kind (UInt32.ofNat (a.authority.next kind))
      (({ a with authority := a.authority.withNext (a.authority.next kind + count) kind } :
          Allocator SequentialIds).withWindow
        { next := (UInt32.ofNat (a.authority.next kind)).toNat + 1
          limit := (UInt32.ofNat (a.authority.next kind)).toNat + count } kind) := by
  have hlt : a.authority.next kind < sentinelId.toNat := by omega
  have hnumber := toNat_ofNat_of_lt_sentinel hlt
  have hfrontier : a.frontier kind = a.authority.next kind := by rw [frontier, if_neg hw]
  rw [hnumber]
  refine ⟨by rw [hnumber, hfrontier], by rw [hnumber]; exact hlt, ?_, ?_, ?_⟩
  · rw [hfrontier]
    simp only [frontier, window_withWindow_self, authority_withWindow,
      SequentialIds.next_withNext_self]
    by_cases hone : a.authority.next kind + 1 < a.authority.next kind + count
    · rw [if_pos hone]
    · rw [if_neg hone]
      omega
  · intro other hother
    simp only [frontier, window_withWindow_of_ne hother, authority_withWindow,
      window_setAuthority, SequentialIds.next_withNext_of_ne hother]
  · intro k hk
    by_cases hsame : k = kind
    · subst hsame
      simp only [window_withWindow_self, authority_withWindow, SequentialIds.next_withNext_self]
        at hk ⊢
      exact ⟨trivial, hgrant⟩
    · simp only [window_withWindow_of_ne hsame, authority_withWindow, window_setAuthority,
        SequentialIds.next_withNext_of_ne hsame] at hk ⊢
      exact hc k hk

/-- What `allocate` does: it hands out the frontier, or it fails and the allocator stays. -/
theorem allocate_cases (hc : a.Contiguous) (blockSize : Nat) (kind : IdKind) :
    (∃ number a', allocate SequentialIds.authority blockSize kind a = (.ok number, a') ∧
      a.HandsOut kind number a') ∨
    (∃ failure, allocate SequentialIds.authority blockSize kind a = (.error failure, a) ∧
      sentinelId.toNat < a.frontier kind + max 1 blockSize) := by
  unfold allocate
  by_cases hw : (a.window kind).next < (a.window kind).limit
  · simp only [if_pos hw]
    exact Or.inl ⟨_, _, rfl, handsOut_window hc hw⟩
  · simp only [if_neg hw, SequentialIds.authority, SequentialIds.grant]
    by_cases hgrant : a.authority.next kind + max 1 blockSize ≤ sentinelId.toNat
    · simp only [if_pos hgrant]
      exact Or.inl ⟨_, _, rfl, handsOut_block hc hw (by omega) hgrant⟩
    · simp only [if_neg hgrant]
      refine Or.inr ⟨_, rfl, ?_⟩
      rw [frontier, if_neg hw]
      omega

/-- An id is handed out as long as a whole block fits below the sentinel. -/
theorem allocate_ok (hc : a.Contiguous) (blockSize : Nat)
    (hfits : a.frontier kind + max 1 blockSize ≤ sentinelId.toNat) :
    ∃ number a', allocate SequentialIds.authority blockSize kind a = (.ok number, a') ∧
      a.HandsOut kind number a' := by
  rcases allocate_cases hc blockSize kind with hok | ⟨failure, -, hfull⟩
  · exact hok
  · exact absurd hfits (Nat.not_le.mpr hfull)

end Allocator

/-! ### The history of a batch -/

theorem MintedIds.number?_withNumber {ids : MintedIds} {kind kind' : IdKind} {n : UInt32} :
    (ids.withNumber kind n).number? kind' = if kind' = kind then some n else ids.number? kind' := by
  cases kind <;> cases kind' <;> rfl

theorem MintedIds.sid_withNumber {ids : MintedIds} {kind : IdKind} {n : UInt32} :
    (ids.withNumber kind n).sid = ids.sid := by
  cases kind <;> rfl

namespace SidHistory

variable {history : SidHistory} {sid sid' : Sid} {kind kind' : IdKind} {n : UInt32}

@[simp] theorem get?_empty : ({} : SidHistory).get? sid kind = none := rfl

theorem find?_sid_map {entries : List MintedIds} :
    (entries.map fun ids => if ids.sid == sid then ids.withNumber kind n else ids).find?
        (·.sid == sid')
      = (entries.find? (·.sid == sid')).map
          fun ids => if ids.sid == sid then ids.withNumber kind n else ids := by
  rw [List.find?_map]
  congr 2
  funext ids
  by_cases h : ids.sid == sid
  · simp [Function.comp, h, MintedIds.sid_withNumber]
  · simp [Function.comp, h]

/-- Noting an id changes the entry of its SID and kind and no other. -/
theorem get?_insert :
    (history.insert sid kind n).get? sid' kind'
      = if sid' = sid ∧ kind' = kind then some n else history.get? sid' kind' := by
  unfold insert get?
  by_cases hany : history.entries.any (·.sid == sid) = true
  · rw [if_pos hany]
    simp only [find?_sid_map]
    cases hfind : history.entries.find? (·.sid == sid') with
    | none =>
        have hne : sid' ≠ sid := by
          rintro rfl
          obtain ⟨ids, hids, hsid⟩ := List.any_eq_true.mp hany
          exact absurd hsid (List.find?_eq_none.mp hfind ids hids)
        simp [hne]
    | some ids =>
        have hsid : ids.sid = sid' := by simpa using List.find?_some hfind
        by_cases hsame : sid' = sid
        · subst hsame
          simp [hsid, MintedIds.number?_withNumber]
        · simp [hsid, hsame]
  · rw [if_neg hany]
    simp only [List.find?_append]
    have hnone : history.entries.find? (·.sid == sid) = none := by
      rw [List.find?_eq_none]
      intro ids hids hsid
      exact hany (List.any_eq_true.mpr ⟨ids, hids, hsid⟩)
    by_cases hsame : sid' = sid
    · subst hsame
      simp only [hnone, Option.none_or, List.find?_cons, MintedIds.sid_withNumber, beq_self_eq_true,
        Option.bind_some, MintedIds.number?_withNumber, true_and, Option.bind_none]
      cases kind' <;> rfl
    · have hne : (sid == sid') = false := by simpa using fun h => hsame h.symm
      simp [MintedIds.sid_withNumber, hne, hsame]

end SidHistory

/-! ### The book of minted ids -/

/-- Which unix id was handed out to which SID. -/
abbrev Book := Sid → UnixId → Prop

namespace Book

/-- The book with one more entry. -/
def add (book : Book) (sid : Sid) (id : UnixId) : Book :=
  fun sid' id' => book sid' id' ∨ (sid' = sid ∧ id' = id)

theorem le_add (book : Book) (sid : Sid) (id : UnixId) : book ≤ book.add sid id :=
  fun _ _ h => Or.inl h

theorem add_self (book : Book) (sid : Sid) (id : UnixId) : book.add sid id sid id :=
  Or.inr ⟨rfl, rfl⟩

/-- All entries of the book lie between the floor and the frontier of their kind, and no
id has two SIDs. -/
structure Kept (floor : IdKind → Nat) (book : Book) (a : Allocator SequentialIds) : Prop where
  single : ∀ {sid sid' id}, book sid id → book sid' id → sid = sid'
  above : ∀ {sid id}, book sid id → floor id.kind ≤ id.number.toNat
  below : ∀ {sid id}, book sid id → id.number.toNat < a.frontier id.kind
  ordinary : ∀ {sid id}, book sid id → id.number.toNat < sentinelId.toNat
  floor_le : ∀ kind, floor kind ≤ a.frontier kind
  contiguous : a.Contiguous

/-- An empty book fits every allocator that begins above the floor. -/
theorem kept_fresh {floor : IdKind → Nat} {ids : SequentialIds}
    (h : ∀ kind, floor kind ≤ ids.next kind) :
    Kept floor (fun _ _ => False) { authority := ids } where
  single h := h.elim
  above h := h.elim
  below h := h.elim
  ordinary h := h.elim
  floor_le kind := by rw [Allocator.frontier_fresh]; exact h kind
  contiguous := Allocator.contiguous_fresh ids

namespace Kept

variable {floor : IdKind → Nat} {book : Book} {a a' : Allocator SequentialIds}
  {kind : IdKind} {number : UInt32}

/-- A number that is handed out can be written down for any SID: it lies at the frontier,
so no entry has it. -/
theorem add (h : Kept floor book a) (hout : a.HandsOut kind number a') (sid : Sid) :
    Kept floor (book.add sid { kind, number }) a' := by
  have hfresh : ∀ {other}, ¬ book other { kind, number } := by
    intro other hbook
    have hbelow := h.below hbook
    have hnumber := hout.number_eq
    exact Nat.ne_of_lt hbelow hnumber
  have hmono : ∀ k, a.frontier k ≤ a'.frontier k := by
    intro k
    by_cases hk : k = kind
    · subst hk
      rw [hout.next]
      exact Nat.le_succ _
    · exact Nat.le_of_eq (hout.frame k hk).symm
  refine ⟨?_, ?_, ?_, ?_, fun k => Nat.le_trans (h.floor_le k) (hmono k), hout.contiguous⟩
  · rintro s t id (hs | ⟨rfl, rfl⟩) (ht | ⟨rfl, hid⟩)
    · exact h.single hs ht
    · exact absurd (hid ▸ hs) hfresh
    · exact absurd ht hfresh
    · rfl
  · rintro s id (hs | ⟨rfl, rfl⟩)
    · exact h.above hs
    · rw [hout.number_eq]
      exact h.floor_le kind
  · rintro s id (hs | ⟨rfl, rfl⟩)
    · exact Nat.lt_of_lt_of_le (h.below hs) (hmono _)
    · rw [hout.next, hout.number_eq]
      exact Nat.lt_succ_self _
  · rintro s id (hs | ⟨rfl, rfl⟩)
    · exact h.ordinary hs
    · exact hout.number_lt

end Kept

/-- The book is kept, and the minted ids that a batch has noted so far stand in it. -/
structure Covers (floor : IdKind → Nat) (book : Book) (m : Mint SequentialIds) : Prop where
  kept : book.Kept floor m.allocator
  noted : ∀ {sid kind number}, m.history.get? sid kind = some number →
    isEphemeral number = true → book sid { kind, number }

namespace Covers

variable {floor : IdKind → Nat} {book : Book} {m : Mint SequentialIds} {sid : Sid}

/-- Noting an id that stands in the book, or one that is no minted one. -/
theorem reuse {id : UnixId} (h : Covers floor book m)
    (hid : isEphemeral id.number = true → book sid id) : Covers floor book (m.reuse sid id) := by
  refine ⟨h.kept, ?_⟩
  intro sid' kind' number' hget heph
  simp only [Mint.reuse, SidHistory.get?_insert] at hget
  split at hget
  · next hsame =>
      obtain ⟨rfl, rfl⟩ := hsame
      cases hget
      exact hid heph
  · exact h.noted hget heph

/-- What obtaining an id does: the book grows to hold it, or obtaining it fails and the
book stays. -/
theorem obtain_cases (h : Covers floor book m) (blockSize : Nat) (sid : Sid) (kind : IdKind) :
    (∃ number m', m.obtain SequentialIds.authority blockSize sid kind = (.ok number, m') ∧
      ∃ book', book ≤ book' ∧ Covers floor book' m' ∧
        (isEphemeral number = true → book' sid { kind, number })) ∨
    (∃ failure, m.obtain SequentialIds.authority blockSize sid kind = (.error failure, m)) := by
  unfold Mint.obtain
  cases hget : m.history.get? sid kind with
  | some number =>
      exact Or.inl ⟨_, _, rfl, book, le_refl book, h, fun heph => h.noted hget heph⟩
  | none =>
      rcases Allocator.allocate_cases h.kept.contiguous blockSize kind with
        ⟨number, a', hallocate, hout⟩ | ⟨failure, hallocate, -⟩
      · simp only [hallocate]
        refine Or.inl ⟨_, _, rfl, book.add sid { kind, number }, le_add _ _ _, ?_,
          fun _ => add_self _ _ _⟩
        refine ⟨h.kept.add hout sid, ?_⟩
        intro sid' kind' number' hget' heph
        simp only [SidHistory.get?_insert] at hget'
        split at hget'
        · next hsame =>
            obtain ⟨rfl, rfl⟩ := hsame
            cases hget'
            exact add_self _ _ _
        · exact le_add _ _ _ _ _ (h.noted hget' heph)
      · simp only [hallocate]
        exact Or.inr ⟨_, rfl⟩

end Covers
end Book
end IdentityMap

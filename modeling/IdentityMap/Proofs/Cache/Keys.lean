/-
The keys of the id table.

A SID has one row that leads to a unix id, and a unix id has one row that leads to a SID.
That is what the two keys of the table say, and every write keeps it: the new row takes the
place of those that share a key with it, and everything else only takes rows or directions
away.

So a lookup does not merely find some row.  If a row answers it, that row is what it finds.
This is how a lookup by unix id comes to see the very row that a lookup by SID has seen.
-/
import Mathlib.Data.List.Pairwise
import IdentityMap.Proofs.Cache.Rows

namespace IdentityMap

/-! ### Rows with a common key -/

namespace IdRow

variable {a b : IdRow}

theorem sameSidKey_comm (a b : IdRow) : a.sameSidKey b = b.sameSidKey a := by
  rw [sameSidKey, sameSidKey, Table.sameKey_comm a.base, Table.sameKey_comm a.rid,
    Table.sameKey_comm a.toUnix]

theorem sameIdKey_comm (a b : IdRow) : a.sameIdKey b = b.sameIdKey a := by
  rw [sameIdKey, sameIdKey, Table.sameKey_comm a.number, Table.sameKey_comm a.isUser,
    Table.sameKey_comm a.toWindows]

theorem collides_comm (a b : IdRow) : a.collides b = b.collides a := by
  rw [collides, collides, sameSidKey_comm, sameIdKey_comm]

/-- Two rows that lead from one SID to a unix id cannot stand in one table. -/
theorem collides_of_isAbout {sid : Sid} (ha : a.isAbout sid = true) (hb : b.isAbout sid = true)
    (hunix : a.toUnix = some 1) (hunix' : b.toUnix = some 1) : a.collides b = true := by
  obtain ⟨hbase, hrid⟩ := isAbout_iff.mp ha
  obtain ⟨hbase', hrid'⟩ := isAbout_iff.mp hb
  have hkey : a.sameSidKey b = true := by
    simp [sameSidKey, Table.sameKey, hbase, hrid, hbase', hrid', hunix, hunix', wordColumn]
  rw [collides, hkey, Bool.true_or]

/-- The row holds this unix id. -/
def isOf (row : IdRow) (id : UnixId) : Bool :=
  row.number == wordColumn id.number && row.isUser == boolColumn id.kind.isUser

theorem isOf_iff {row : IdRow} {id : UnixId} :
    row.isOf id = true ↔
      row.number = wordColumn id.number ∧ row.isUser = boolColumn id.kind.isUser := by
  simp [isOf]

/-- Two rows that lead from one unix id to a SID cannot stand in one table. -/
theorem collides_of_isOf {id : UnixId} (ha : a.isOf id = true) (hb : b.isOf id = true)
    (hwindows : a.toWindows = some 1) (hwindows' : b.toWindows = some 1) :
    a.collides b = true := by
  obtain ⟨hnumber, hkind⟩ := isOf_iff.mp ha
  obtain ⟨hnumber', hkind'⟩ := isOf_iff.mp hb
  have hkey : a.sameIdKey b = true := by
    simp [sameIdKey, Table.sameKey, hnumber, hkind, hnumber', hkind', hwindows, hwindows',
      wordColumn, boolColumn]
  rw [collides, hkey, Bool.or_true]

theorem collides_of_answersId {id : UnixId} {now now' : Int} (ha : a.answersId id now = true)
    (hb : b.answersId id now' = true) : a.collides b = true := by
  obtain ⟨hwindows, hnumber, hkind, -⟩ := answersId_iff.mp ha
  obtain ⟨hwindows', hnumber', hkind', -⟩ := answersId_iff.mp hb
  exact collides_of_isOf (isOf_iff.mpr ⟨hnumber, hkind⟩) (isOf_iff.mpr ⟨hnumber', hkind'⟩)
    hwindows hwindows'

/-- A row that lost a direction shares no more keys than before. -/
theorem collides_clearToUnix (h : a.collides b = false) :
    ({ a with toUnix := none } : IdRow).collides b = false := by
  simp only [collides, Bool.or_eq_false_iff] at h ⊢
  refine ⟨?_, h.2⟩
  simp [sameSidKey, Table.sameKey]

end IdRow

/-! ### Tables with keys -/

/-- Of the rows of a table that keep apart, no two share a key. -/
theorem Table.eq_of_collides {ρ : Type} {collides : ρ → ρ → Bool}
    (hcomm : ∀ a b, collides a b = collides b a) {rows : List ρ}
    (h : rows.Pairwise fun a b => collides a b = false) {row row' : ρ} (hrow : row ∈ rows)
    (hrow' : row' ∈ rows) (hcollides : collides row row' = true) : row = row' := by
  by_contra hne
  have hsymm : Std.Symm fun a b : ρ => collides a b = false :=
    ⟨fun a b hab => (hcomm b a).trans hab⟩
  have hapart : collides row row' = false := h.forall hrow hrow' hne
  rw [hapart] at hcollides
  cases hcollides

/-- The only row that will do is the one that is found. -/
theorem Table.find?_eq {ρ : Type} {p : ρ → Bool} {rows : List ρ} {row : ρ} (hrow : row ∈ rows)
    (hp : p row = true) (honly : ∀ other ∈ rows, p other = true → other = row) :
    rows.find? p = some row := by
  cases hfound : rows.find? p with
  | none => exact absurd hp (List.find?_eq_none.mp hfound row hrow)
  | some other =>
      rw [honly other (List.mem_of_find?_eq_some hfound) (List.find?_some hfound)]

namespace Cache

/-- Every row ties a SID to a unix id, and no two rows share a key. -/
structure Keyed (cache : Cache) : Prop where
  wellFormed : cache.WellFormed
  distinct : cache.ids.Pairwise fun a b => a.collides b = false

namespace Keyed

variable {cache cache' : Cache} {row row' : IdRow} {sid : Sid} {id : UnixId} {now : Int}

theorem empty : Keyed {} where
  wellFormed row hrow := by cases hrow
  distinct := List.Pairwise.nil

/-- Only the id table is looked at. -/
theorem congr (h : cache.Keyed) (hids : cache'.ids = cache.ids) : cache'.Keyed := by
  obtain ⟨hwellFormed, hdistinct⟩ := h
  refine ⟨?_, by rw [hids]; exact hdistinct⟩
  intro row hrow
  rw [hids] at hrow
  exact hwellFormed row hrow

/-- The rows that share a key with the new one make room for it. -/
theorem putId (h : cache.Keyed) (m : IdMapping) : (cache.putId m).Keyed where
  wellFormed := h.wellFormed.wrote (wrote_putId cache m)
  distinct := Table.pairwise_put h.distinct

theorem supersede (h : cache.Keyed) (sid : Sid) (kind : IdKind) :
    (cache.supersede sid kind).Keyed where
  wellFormed := by
    intro row hrow
    obtain ⟨old, hold, rfl⟩ := mem_supersede.mp hrow
    by_cases hs : supersedes sid kind old = true
    · rw [if_pos hs]
      exact (h.wellFormed old hold).clearToUnix
    · rw [if_neg hs]
      exact h.wellFormed old hold
  distinct := by
    -- A row is changed by taking its direction away, on either side of a pair.
    have hleft : ∀ {a b : IdRow}, a.collides b = false →
        (if supersedes sid kind a then { a with toUnix := none } else a).collides b = false := by
      intro a b hab
      split
      · exact IdRow.collides_clearToUnix hab
      · exact hab
    refine List.pairwise_map.mpr (h.distinct.imp ?_)
    intro a b hab
    have hchanged := hleft hab
    rw [IdRow.collides_comm] at hchanged ⊢
    exact hleft hchanged

theorem purge (h : cache.Keyed) (now : Int) : (cache.purge now).Keyed where
  wellFormed row hrow := h.wellFormed row (mem_of_mem_purge hrow)
  distinct := h.distinct.filter _

/-! ### A lookup finds the row -/

theorem eq_of_collides (h : cache.Keyed) (hrow : row ∈ cache.ids) (hrow' : row' ∈ cache.ids)
    (hcollides : row.collides row' = true) : row = row' :=
  Table.eq_of_collides IdRow.collides_comm h.distinct hrow hrow' hcollides

theorem idRow?_eq (h : cache.Keyed) (hrow : row ∈ cache.ids)
    (hanswers : row.answersSid sid now = true) : cache.idRow? sid now = some row := by
  refine Table.find?_eq hrow hanswers fun other hother hothers => ?_
  obtain ⟨hunix, habout, -⟩ := IdRow.answersSid_iff.mp hanswers
  obtain ⟨hunix', habout', -⟩ := IdRow.answersSid_iff.mp hothers
  exact h.eq_of_collides hother hrow (IdRow.collides_of_isAbout habout' habout hunix' hunix)

theorem sidRow?_eq (h : cache.Keyed) (hrow : row ∈ cache.ids)
    (hanswers : row.answersId id now = true) : cache.sidRow? id now = some row := by
  refine Table.find?_eq hrow hanswers fun other hother hothers => ?_
  exact h.eq_of_collides hother hrow (IdRow.collides_of_answersId hothers hanswers)

theorem idRow?_eq_some_iff (h : cache.Keyed) :
    cache.idRow? sid now = some row ↔ row ∈ cache.ids ∧ row.answersSid sid now = true := by
  constructor
  · intro hfound
    unfold idRow? at hfound
    exact ⟨List.mem_of_find?_eq_some hfound, by simpa using List.find?_some hfound⟩
  · rintro ⟨hrow, hanswers⟩
    exact h.idRow?_eq hrow hanswers

theorem sidRow?_eq_some_iff (h : cache.Keyed) :
    cache.sidRow? id now = some row ↔ row ∈ cache.ids ∧ row.answersId id now = true := by
  constructor
  · intro hfound
    unfold sidRow? at hfound
    exact ⟨List.mem_of_find?_eq_some hfound, by simpa using List.find?_some hfound⟩
  · rintro ⟨hrow, hanswers⟩
    exact h.sidRow?_eq hrow hanswers

/-- A row that leads from a SID gives what it reads as, if that is of a kind that is asked for. -/
theorem idOf_eq (h : cache.Keyed) (hrow : row ∈ cache.ids)
    (hanswers : row.answersSid sid now = true) {hit : CachedId}
    (hread : row.cachedId now = .ok hit) {wanted : Wanted} (hcheck : hit.check wanted = .ok ()) :
    cache.idOf sid wanted now = .ok hit :=
  idOf_of_idRow? (h.idRow?_eq hrow hanswers) hread (Or.inr hcheck)

/-- A row that leads from a unix id to a SID gives the SID. -/
theorem sidOf_eq (h : cache.Keyed) (hrow : row ∈ cache.ids) (hties : row.Ties sid id)
    (hanswers : row.answersId id now = true) :
    cache.sidOf id now = .ok
      { sid, direction := if flagIsSet row.toUnix then .both else .toWindows
        windowsName := row.windowsName, windowsDomain := row.windowsDomain } := by
  rw [sidOf, h.sidRow?_eq hrow hanswers]
  exact hties.cachedSid_eq

end Keyed
end Cache
end IdentityMap

/-
What writing a mapping does to every lookup.

A mapping is written in place of the rows that share a key with it, and there may be two of
them: one that leads from its SID, and one that leads back from its unix id.  Each of the two
may serve the other direction as well, for another id or another SID, and goes with all that it
says.  So a lookup can be lost that has nothing to do with the keys of the mapping.

This is the only loss.  In a cache with keys a lookup has no choice of rows, so it is enough to
say which row it found, and whether that row is still there.
-/
import IdentityMap.Proofs.Repetition

namespace IdentityMap

/-! ### What a mapping answers in the course of time -/

namespace IdMapping

/-- What a lookup by the SID of the mapping makes of its row. -/
def cachedId (m : IdMapping) (now : Int) : CachedId :=
  { id := m.id, direction := m.direction, unixName := m.unixName
    expired := IdRow.isExpired m.id.number (some m.expiry.column) now }

/-- What a lookup by the unix id of the mapping makes of its row. -/
def cachedSid (m : IdMapping) : CachedSid :=
  { sid := m.sid, direction := m.direction
    windowsName := m.windowsName, windowsDomain := m.windowsDomain }

/-- Whether the mapping may be used at a time: before its time is over, or if it was minted. -/
def isUsable (m : IdMapping) (now : Int) : Bool :=
  isEphemeral m.id.number || isLive (some m.expiry.column) now

/-- What the cache has for a SID that leads to its unix id by this mapping. -/
def idFound (m : IdMapping) (wanted : Wanted) (now : Int) : Except Failure CachedId :=
  if m.isUsable now then
    if (m.cachedId now).expired then .ok (m.cachedId now)
    else ((m.cachedId now).check wanted).map fun _ => m.cachedId now
  else .error .notFound

/-- What the cache has for a unix id that leads to its SID by this mapping. -/
def sidFound (m : IdMapping) (now : Int) : Except Failure CachedSid :=
  if m.isUsable now then .ok m.cachedSid else .error .notFound

theorem isUsable_row_eq (m : IdMapping) (now : Int) : m.row.isUsable now = m.isUsable now := by
  rw [IdRow.isUsable, m.row_ties.isMinted]
  rfl

theorem answersSid_row_iff {m : IdMapping} {sid : Sid} {now : Int} :
    m.row.answersSid sid now = true ↔
      m.direction.isToUnix = true ∧ sid = m.sid ∧ m.isUsable now = true := by
  rw [IdRow.answersSid_iff, m.isUsable_row_eq]
  constructor
  · rintro ⟨hunix, habout, husable⟩
    exact ⟨isSet_of_flagColumn hunix, m.row_ties.eq_sid habout, husable⟩
  · rintro ⟨hunix, rfl, husable⟩
    exact ⟨by rw [IdMapping.row, hunix]; rfl, m.row_ties.isAbout, husable⟩

theorem answersId_row_iff {m : IdMapping} {id : UnixId} {now : Int} :
    m.row.answersId id now = true ↔
      m.direction.isToWindows = true ∧ id = m.id ∧ m.isUsable now = true := by
  rw [IdRow.answersId_iff, m.isUsable_row_eq]
  constructor
  · rintro ⟨hwindows, hnumber, hkind, husable⟩
    exact ⟨isSet_of_flagColumn hwindows, m.row_ties.eq_id hnumber hkind, husable⟩
  · rintro ⟨hwindows, rfl, husable⟩
    exact ⟨by rw [IdMapping.row, hwindows]; rfl, rfl, rfl, husable⟩

theorem cachedId_row {m : IdMapping} (h : m.direction.isToUnix = true) (now : Int) :
    m.row.cachedId now = .ok (m.cachedId now) := by
  rw [m.row_ties.cachedId_eq, m.direction_of_toWindows h]
  rfl

theorem cachedSid_row {m : IdMapping} (h : m.direction.isToWindows = true) :
    m.row.cachedSid = .ok m.cachedSid := by
  rw [m.row_ties.cachedSid_eq, m.direction_of_toUnix h]
  rfl

end IdMapping

/-! ### The rows that go -/

/-- A row goes if it leads from the mapping's SID and the mapping does, or if it leads from the
mapping's unix id and the mapping does. -/
theorem IdRow.collides_row_iff {old : IdRow} {m : IdMapping} :
    old.collides m.row = true ↔
      (old.isAbout m.sid = true ∧ old.toUnix = some 1 ∧ m.direction.isToUnix = true) ∨
        (old.isOf m.id = true ∧ old.toWindows = some 1 ∧ m.direction.isToWindows = true) := by
  rw [IdRow.collides, Bool.or_eq_true, IdRow.sameSidKey_row, IdRow.sameIdKey_row, IdRow.isOf_iff]

namespace Cache

/-- What each lookup gives after a mapping was written, by what it gave before. -/
structure Overwritten (cache : Cache) (m : IdMapping) (cache' : Cache) : Prop where
  /-- A mapping that leads from its SID answers for it. -/
  idOf_own : m.direction.isToUnix = true → ∀ wanted now,
    cache'.idOf m.sid wanted now = m.idFound wanted now
  /-- A mapping that leads from its unix id takes the id away from a SID that had it both ways. -/
  idOf_lost : ∀ sid now, ¬ (m.direction.isToUnix = true ∧ sid = m.sid) →
    m.direction.isToWindows = true → cache.HoldsBoth sid m.id now →
    ∀ wanted, cache'.idOf sid wanted now = .error .notFound
  idOf_kept : ∀ sid now, ¬ (m.direction.isToUnix = true ∧ sid = m.sid) →
    ¬ (m.direction.isToWindows = true ∧ cache.HoldsBoth sid m.id now) →
    ∀ wanted, cache'.idOf sid wanted now = cache.idOf sid wanted now
  /-- A mapping that leads from its unix id answers for it. -/
  sidOf_own : m.direction.isToWindows = true → ∀ now, cache'.sidOf m.id now = m.sidFound now
  /-- A mapping that leads from its SID takes the SID away from an id that had it both ways. -/
  sidOf_lost : ∀ id now, ¬ (m.direction.isToWindows = true ∧ id = m.id) →
    m.direction.isToUnix = true → cache.HoldsBoth m.sid id now →
    cache'.sidOf id now = .error .notFound
  sidOf_kept : ∀ id now, ¬ (m.direction.isToWindows = true ∧ id = m.id) →
    ¬ (m.direction.isToUnix = true ∧ cache.HoldsBoth m.sid id now) →
    cache'.sidOf id now = cache.sidOf id now
  nameOf_kept : ∀ sid now, cache'.nameOf sid now = cache.nameOf sid now
  accountNamed_kept : ∀ name domain now,
    cache'.accountNamed name domain now = cache.accountNamed name domain now

namespace Keyed

variable {cache : Cache} {sid : Sid} {id : UnixId} {now : Int}

/-! ### Lookups by SID -/

theorem idOf_putId_own (h : cache.Keyed) {m : IdMapping} (hunix : m.direction.isToUnix = true)
    (wanted : Wanted) (now : Int) :
    (cache.putId m).idOf m.sid wanted now = m.idFound wanted now := by
  have hwrote := wrote_putId cache m
  unfold IdMapping.idFound
  by_cases husable : m.isUsable now = true
  · have hfound : (cache.putId m).idRow? m.sid now = some m.row :=
      (h.putId m).idRow?_eq hwrote.written
        (IdMapping.answersSid_row_iff.mpr ⟨hunix, rfl, husable⟩)
    rw [if_pos husable, idOf, hfound]
    simp only [IdMapping.cachedId_row hunix]
    change (if (m.cachedId now).expired = true then Except.ok (m.cachedId now)
      else ((m.cachedId now).check wanted).bind _) = _
    rfl
  · rw [if_neg husable]
    refine idOf_of_none (idRow?_eq_none_iff.mpr ?_) wanted
    intro row hrow hanswers
    obtain ⟨hset, habout, husable'⟩ := IdRow.answersSid_iff.mp hanswers
    rw [hwrote.onlySid hunix row hrow habout hset, m.isUsable_row_eq] at husable'
    exact husable husable'

theorem idRow?_putId_lost (h : cache.Keyed) {m : IdMapping}
    (hother : ¬ (m.direction.isToUnix = true ∧ sid = m.sid))
    (hwindows : m.direction.isToWindows = true) (hboth : cache.HoldsBoth sid m.id now) :
    (cache.putId m).idRow? sid now = none := by
  obtain ⟨lost, hlost, hties, hunix, hback, husable⟩ := hboth
  have hanswers : lost.answersSid sid now = true :=
    IdRow.answersSid_iff.mpr ⟨hunix, hties.isAbout, husable⟩
  have hgoes : lost.collides m.row = true :=
    IdRow.collides_row_iff.mpr
      (Or.inr ⟨IdRow.isOf_iff.mpr ⟨hties.number, hties.isUser⟩, hback, hwindows⟩)
  refine idRow?_eq_none_iff.mpr ?_
  intro row hrow hanswers'
  rcases mem_putId.mp hrow with rfl | ⟨hold, hstays⟩
  · obtain ⟨hm, hsid, -⟩ := IdMapping.answersSid_row_iff.mp hanswers'
    exact hother ⟨hm, hsid⟩
  · -- The lookup has no choice: this would be the row that went.
    obtain rfl : lost = row :=
      Option.some.inj ((h.idRow?_eq hlost hanswers).symm.trans (h.idRow?_eq hold hanswers'))
    rw [hgoes] at hstays
    cases hstays

theorem idRow?_putId_kept (h : cache.Keyed) {m : IdMapping}
    (hother : ¬ (m.direction.isToUnix = true ∧ sid = m.sid))
    (happart : ¬ (m.direction.isToWindows = true ∧ cache.HoldsBoth sid m.id now)) :
    (cache.putId m).idRow? sid now = cache.idRow? sid now := by
  refine Option.ext fun row => ?_
  rw [(h.putId m).idRow?_eq_some_iff, h.idRow?_eq_some_iff, mem_putId]
  constructor
  · rintro ⟨rfl | ⟨hrow, -⟩, hanswers⟩
    · obtain ⟨hm, hsid, -⟩ := IdMapping.answersSid_row_iff.mp hanswers
      exact absurd ⟨hm, hsid⟩ hother
    · exact ⟨hrow, hanswers⟩
  · rintro ⟨hrow, hanswers⟩
    refine ⟨Or.inr ⟨hrow, ?_⟩, hanswers⟩
    obtain ⟨hunix, habout, husable⟩ := IdRow.answersSid_iff.mp hanswers
    obtain ⟨sid', id', hties⟩ := (h.wellFormed row hrow).ties
    obtain rfl := hties.eq_sid habout
    rw [Bool.eq_false_iff]
    intro hgoes
    rcases IdRow.collides_row_iff.mp hgoes with ⟨habout', -, hm⟩ | ⟨hisOf, hback, hm⟩
    · exact hother ⟨hm, (hties.eq_sid habout').symm⟩
    · obtain ⟨hnumber, hkind⟩ := IdRow.isOf_iff.mp hisOf
      obtain rfl := hties.eq_id hnumber hkind
      exact happart ⟨hm, row, hrow, hties, hunix, hback, husable⟩

/-! ### Lookups by unix id -/

theorem sidOf_putId_own (h : cache.Keyed) {m : IdMapping}
    (hwindows : m.direction.isToWindows = true) (now : Int) :
    (cache.putId m).sidOf m.id now = m.sidFound now := by
  have hwrote := wrote_putId cache m
  unfold IdMapping.sidFound
  by_cases husable : m.isUsable now = true
  · have hfound : (cache.putId m).sidRow? m.id now = some m.row :=
      (h.putId m).sidRow?_eq hwrote.written
        (IdMapping.answersId_row_iff.mpr ⟨hwindows, rfl, husable⟩)
    rw [if_pos husable, sidOf, hfound]
    exact IdMapping.cachedSid_row hwindows
  · rw [if_neg husable]
    refine sidOf_of_none (sidRow?_eq_none_iff.mpr ?_)
    intro row hrow hanswers
    obtain ⟨hset, hnumber, hkind, husable'⟩ := IdRow.answersId_iff.mp hanswers
    rw [hwrote.onlyId hwindows row hrow hnumber hkind hset, m.isUsable_row_eq] at husable'
    exact husable husable'

theorem sidRow?_putId_lost (h : cache.Keyed) {m : IdMapping}
    (hother : ¬ (m.direction.isToWindows = true ∧ id = m.id))
    (hunix : m.direction.isToUnix = true) (hboth : cache.HoldsBoth m.sid id now) :
    (cache.putId m).sidRow? id now = none := by
  obtain ⟨lost, hlost, hties, hthere, hwindows, husable⟩ := hboth
  have hanswers : lost.answersId id now = true :=
    IdRow.answersId_iff.mpr ⟨hwindows, hties.number, hties.isUser, husable⟩
  have hgoes : lost.collides m.row = true :=
    IdRow.collides_row_iff.mpr (Or.inl ⟨hties.isAbout, hthere, hunix⟩)
  refine sidRow?_eq_none_iff.mpr ?_
  intro row hrow hanswers'
  rcases mem_putId.mp hrow with rfl | ⟨hold, hstays⟩
  · obtain ⟨hm, hid, -⟩ := IdMapping.answersId_row_iff.mp hanswers'
    exact hother ⟨hm, hid⟩
  · obtain rfl : lost = row :=
      Option.some.inj ((h.sidRow?_eq hlost hanswers).symm.trans (h.sidRow?_eq hold hanswers'))
    rw [hgoes] at hstays
    cases hstays

theorem sidRow?_putId_kept (h : cache.Keyed) {m : IdMapping}
    (hother : ¬ (m.direction.isToWindows = true ∧ id = m.id))
    (happart : ¬ (m.direction.isToUnix = true ∧ cache.HoldsBoth m.sid id now)) :
    (cache.putId m).sidRow? id now = cache.sidRow? id now := by
  refine Option.ext fun row => ?_
  rw [(h.putId m).sidRow?_eq_some_iff, h.sidRow?_eq_some_iff, mem_putId]
  constructor
  · rintro ⟨rfl | ⟨hrow, -⟩, hanswers⟩
    · obtain ⟨hm, hid, -⟩ := IdMapping.answersId_row_iff.mp hanswers
      exact absurd ⟨hm, hid⟩ hother
    · exact ⟨hrow, hanswers⟩
  · rintro ⟨hrow, hanswers⟩
    refine ⟨Or.inr ⟨hrow, ?_⟩, hanswers⟩
    obtain ⟨hwindows, hnumber, hkind, husable⟩ := IdRow.answersId_iff.mp hanswers
    obtain ⟨sid', id', hties⟩ := (h.wellFormed row hrow).ties
    obtain rfl := hties.eq_id hnumber hkind
    rw [Bool.eq_false_iff]
    intro hgoes
    rcases IdRow.collides_row_iff.mp hgoes with ⟨habout, hthere, hm⟩ | ⟨hisOf, -, hm⟩
    · obtain rfl := hties.eq_sid habout
      exact happart ⟨hm, row, hrow, hties, hthere, hwindows, husable⟩
    · obtain ⟨hnumber', hkind'⟩ := IdRow.isOf_iff.mp hisOf
      exact hother ⟨hm, (hties.eq_id hnumber' hkind').symm⟩

end Keyed
end Cache

variable {δ α : Type}

/--
**Writing a mapping is seen by the lookups that it concerns, and by no others.**

Into whatever cache a mapping is written, it answers for its SID if it leads from that, and for
its unix id if it leads from that.  A SID that had this unix id both ways loses it to a mapping
that leads from the id, and an id that had this SID both ways loses it to a mapping that leads
from the SID; nothing is found for them until something else is written.  Every other lookup of
either table, at any time, gives what it gave before.
-/
theorem EngineState.Reachable.overwritten {s : EngineState δ α} (hs : s.Reachable)
    (m : IdMapping) : s.cache.Overwritten m (s.cache.putId m) := by
  have hkeyed : s.cache.Keyed := hs.keyed
  exact {
    idOf_own := fun hunix => hkeyed.idOf_putId_own hunix
    idOf_lost := fun _ _ hother hwindows hboth =>
      Cache.idOf_of_none (hkeyed.idRow?_putId_lost hother hwindows hboth)
    idOf_kept := fun _ _ hother happart =>
      Cache.idOf_congr (hkeyed.idRow?_putId_kept hother happart)
    sidOf_own := fun hwindows => hkeyed.sidOf_putId_own hwindows
    sidOf_lost := fun _ _ hother hunix hboth =>
      Cache.sidOf_of_none (hkeyed.sidRow?_putId_lost hother hunix hboth)
    sidOf_kept := fun _ _ hother happart =>
      Cache.sidOf_congr (hkeyed.sidRow?_putId_kept hother happart)
    nameOf_kept := fun _ _ => rfl
    accountNamed_kept := fun _ _ _ => rfl }

/-- A SID is moved to the unix id of another one.  The other SID has no unix id any more, and
the id that the first one had leads to no SID. -/
theorem EngineState.Reachable.overwritten_moved :
    let first : Sid := { base := "S-1-5-21-9", rid := 1104 }
    let second : Sid := { base := "S-1-5-21-9", rid := 1105 }
    let mapping (sid : Sid) (number : UInt32) : IdMapping :=
      { sid, windowsDomain := none, windowsName := none, id := { kind := .uid, number }
        unixName := none, direction := .both, expiry := .never }
    let s : EngineState Unit SequentialIds := .fresh {} () .aboveReserved
    let cache := (s.cache.putId (mapping first 1001)).putId (mapping second 1002)
    let cache' := cache.putId (mapping first 1002)
    (∀ wanted, cache'.idOf second wanted 0 = .error .notFound) ∧
      cache'.sidOf { kind := .uid, number := 1001 } 0 = .error .notFound ∧
      cache'.sidOf { kind := .uid, number := 1002 } 0
        = .ok { sid := first, direction := .both, windowsName := none, windowsDomain := none } := by
  intro first second mapping s cache cache'
  have hs : EngineState.Reachable (δ := Unit) (α := SequentialIds) { s with cache } :=
    ((EngineState.Reachable.start {} () { authority := SequentialIds.aboveReserved }).putId
      (mapping first 1001)).putId (mapping second 1002)
  have hwritten : cache.Overwritten (mapping first 1002) cache' := hs.overwritten _
  refine ⟨?_, ?_, ?_⟩
  · refine hwritten.idOf_lost second 0 (fun h => absurd h.2 (by decide)) rfl ?_
    exact ⟨(mapping second 1002).row, by decide +kernel, (mapping second 1002).row_ties, rfl, rfl,
      by decide +kernel⟩
  · refine hwritten.sidOf_lost _ 0 (fun h => absurd h.2 (by decide)) rfl ?_
    exact ⟨(mapping first 1001).row, by decide +kernel, (mapping first 1001).row_ties, rfl, rfl,
      by decide +kernel⟩
  · rw [hwritten.sidOf_own rfl 0]
    decide +kernel

end IdentityMap

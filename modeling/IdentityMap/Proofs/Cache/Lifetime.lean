/-
How long a mapping is found.

A mapping is written with a time to live, and a lookup finds it until the time is up, or until the
clock ends.  Two things could go wrong at the ends of the range.  The sum of the time and the time
to live may not fit, which does no harm, because it then stays at the end of the clock.  And the
time to live is a number of 64 bits that is read as a signed one, so that the upper half of its
range lies in the past.  That does do harm: such a mapping is stale when it is written, unless the
sum is just 2^64, which is stored as 0 and so never comes.
-/
import IdentityMap.Proofs.Cache.Changes
import IdentityMap.Proofs.Cache.Overwriting

namespace IdentityMap

namespace Expiry

variable {now t : Int} {ttl : Nat}

/-- In the upper half of its range a time to live counts backwards. -/
theorem column_after_of_wraps (hnow : 0 ≤ now) (hclock : now ≤ maxTime)
    (hwraps : 0x8000000000000000 ≤ ttl) (hword : ttl < 0x10000000000000000) :
    (after now ttl).column = now + ttl - 0x10000000000000000 := by
  have hsigned : Int.bmod ttl 0x10000000000000000 = ttl - 0x10000000000000000 := by
    rw [Int.bmod_def]
    omega
  rw [after, column, hsigned, clampTime, minTime, maxTime]
  unfold maxTime at hclock
  omega

/-- A time to live that fits the clock is over after just as many seconds, or when the clock ends. -/
theorem isLive_after_of_fits_iff (hnow : 0 ≤ now) (hpositive : 1 ≤ ttl)
    (hfits : ttl ≤ 0x7FFFFFFFFFFFFFFF) :
    isLive (some (after now ttl).column) t = true ↔ t < now + ttl ∧ t < maxTime := by
  have hnever : clampTime (now + ttl) ≠ 0 := by
    unfold clampTime minTime maxTime
    omega
  rw [column_after now hfits]
  simp only [isLive, Bool.or_eq_true, beq_iff_eq, decide_eq_true_eq]
  unfold clampTime minTime maxTime at *
  omega

/-- One that does not fit is over at once, or never. -/
theorem isLive_after_of_wraps_iff (hnow : 0 ≤ now) (hclock : now ≤ maxTime)
    (hwraps : 0x8000000000000000 ≤ ttl) (hword : ttl < 0x10000000000000000) (ht : now ≤ t) :
    isLive (some (after now ttl).column) t = true ↔ now + ttl = 0x10000000000000000 := by
  rw [column_after_of_wraps hnow hclock hwraps hword]
  simp only [isLive, Bool.or_eq_true, beq_iff_eq, decide_eq_true_eq]
  omega

end Expiry

/-! ### What is found in the course of time -/

namespace Cache

/-- For `ttl` seconds from `now` on, as long as the clock runs, a lookup by its SID finds the
mapping; after that nothing is found. -/
structure Keeps (cache : Cache) (m : IdMapping) (now : Int) (ttl : Nat) : Prop where
  found : ∀ t, now ≤ t → t < now + ttl → t < maxTime → ∀ wanted : Wanted,
    wanted.admits m.id.kind = true → cache.idOf m.sid wanted t = .ok
      { id := m.id, direction := m.direction, unixName := m.unixName, expired := false }
  gone : ∀ t, now + ttl ≤ t → t ≤ maxTime → ∀ wanted, cache.idOf m.sid wanted t = .error .notFound

section PutId

variable {cache : Cache} {m : IdMapping} {t : Int} {wanted : Wanted}

/-- A mapping that was written is found while it is live, ... -/
theorem Keyed.idOf_putId_of_isLive (h : cache.Keyed) (hunix : m.direction.isToUnix = true)
    (hfixed : isEphemeral m.id.number = false) (hwanted : wanted.admits m.id.kind = true)
    (hlive : isLive (some m.expiry.column) t = true) :
    (cache.putId m).idOf m.sid wanted t = .ok
      { id := m.id, direction := m.direction, unixName := m.unixName, expired := false } := by
  have husable : m.isUsable t = true := by rw [IdMapping.isUsable, hlive, Bool.or_true]
  have hread : m.cachedId t
      = { id := m.id, direction := m.direction, unixName := m.unixName, expired := false } := by
    rw [IdMapping.cachedId, IdRow.isExpired, hfixed, Bool.false_and, Bool.false_and]
  have hcheck : (m.cachedId t).check wanted = .ok () := Wanted.check_of_admits hwanted _
  rw [h.idOf_putId_own hunix, IdMapping.idFound, if_pos husable, hcheck, hread]
  rfl

/-- ... and when it no longer is, nothing is found in its place. -/
theorem Keyed.idOf_putId_of_not_isLive (h : cache.Keyed) (hunix : m.direction.isToUnix = true)
    (hfixed : isEphemeral m.id.number = false) (hover : ¬ isLive (some m.expiry.column) t = true)
    (wanted : Wanted) : (cache.putId m).idOf m.sid wanted t = .error .notFound := by
  have hstale : ¬ m.isUsable t = true := by
    rw [IdMapping.isUsable, hfixed, Bool.false_or]
    exact hover
  rw [h.idOf_putId_own hunix, IdMapping.idFound, if_neg hstale]

end PutId
end Cache

/--
**A mapping lasts as long as its time to live says, if that fits the clock.**

Into whatever cache it is written, a mapping that leads from its SID to a unix id that was not
minted is found for just so many seconds.  A time to live beyond the clock's range is kept in two
cases only: if its sum with the time is 2^64, and when the clock has run out.  In all others but
the first the mapping is never found from then on.
-/
theorem kept_for_ttl_iff (changes : List Cache.Change) (m : IdMapping) {now : Int} {ttl : Nat}
    (hnow : 0 ≤ now) (hclock : now ≤ maxTime) (hpositive : 1 ≤ ttl)
    (hword : ttl < 0x10000000000000000) (hunix : m.direction.isToUnix = true)
    (hfixed : isEphemeral m.id.number = false) (hexpiry : m.expiry = .after now ttl) :
    (((Cache.after changes).putId m).Keeps m now ttl ↔
      ttl < 0x8000000000000000 ∨ now + ttl = 0x10000000000000000 ∨ now = maxTime) ∧
    (0x8000000000000000 ≤ ttl → now + ttl ≠ 0x10000000000000000 → ∀ t, now ≤ t → ∀ wanted,
      ((Cache.after changes).putId m).idOf m.sid wanted t = .error .notFound) := by
  have hkeyed : (Cache.after changes).Keyed := (Cache.Tidy.after changes).keyed
  have hover (hwraps : 0x8000000000000000 ≤ ttl) (hsum : now + ttl ≠ 0x10000000000000000) (t : Int)
      (ht : now ≤ t) (wanted : Wanted) :
      ((Cache.after changes).putId m).idOf m.sid wanted t = .error .notFound := by
    refine hkeyed.idOf_putId_of_not_isLive hunix hfixed (fun hlive => hsum ?_) wanted
    rw [hexpiry] at hlive
    exact (Expiry.isLive_after_of_wraps_iff hnow hclock hwraps hword ht).mp hlive
  refine ⟨⟨?_, ?_⟩, hover⟩
  · intro hkeeps
    by_contra hneither
    obtain ⟨hwraps, hsum, hrun⟩ : 0x8000000000000000 ≤ ttl ∧ now + ttl ≠ 0x10000000000000000 ∧
        now < maxTime := by
      omega
    -- It should be found right now.
    have hfound := hkeeps.found now (Int.le_refl now) (by omega) hrun m.id.kind.wanted
      (IdKind.admits_wanted m.id.kind)
    rw [hover hwraps hsum now (Int.le_refl now)] at hfound
    cases hfound
  · intro hcase
    refine ⟨?_, ?_⟩
    · intro t ht hend hrun wanted hwanted
      refine hkeyed.idOf_putId_of_isLive hunix hfixed hwanted ?_
      rw [hexpiry]
      by_cases hfits : ttl ≤ 0x7FFFFFFFFFFFFFFF
      · exact (Expiry.isLive_after_of_fits_iff hnow hpositive hfits).mpr ⟨hend, hrun⟩
      · refine (Expiry.isLive_after_of_wraps_iff hnow hclock (by omega) hword ht).mpr ?_
        omega
    · intro t hend hrun wanted
      refine hkeyed.idOf_putId_of_not_isLive hunix hfixed ?_ wanted
      rw [hexpiry]
      by_cases hfits : ttl ≤ 0x7FFFFFFFFFFFFFFF
      · intro hlive
        have := (Expiry.isLive_after_of_fits_iff hnow hpositive hfits).mp hlive
        omega
      · unfold maxTime at hrun
        omega

/-- A uid that is cached for ten minutes is found in the last second of them, and not later.  It
would never be found if the time to live were 2^63 seconds. -/
theorem kept_for_ttl_iff_ten_minutes :
    let sid : Sid := { base := "S-1-5-21-7", rid := 1104 }
    let mapping (ttl : Nat) : IdMapping :=
      { sid, windowsDomain := none, windowsName := none, id := { kind := .uid, number := 1001 }
        unixName := some "bob", direction := .both, expiry := .after 1700000000 ttl }
    let cache (ttl : Nat) : Cache := (Cache.after []).putId (mapping ttl)
    (cache 600).idOf sid .posix 1700000599 = .ok
        { id := { kind := .uid, number := 1001 }, direction := .both, unixName := some "bob"
          expired := false } ∧
      (cache 600).idOf sid .posix 1700000600 = .error .notFound ∧
      ∀ t, 1700000000 ≤ t →
        (cache 0x8000000000000000).idOf sid .posix t = .error .notFound := by
  intro sid mapping cache
  have hkeeps : (cache 600).Keeps (mapping 600) 1700000000 600 :=
    (kept_for_ttl_iff [] (mapping 600) (by decide) (by decide) (by decide) (by decide) rfl rfl
      rfl).1.mpr (Or.inl (by decide))
  have hover := (kept_for_ttl_iff [] (mapping 0x8000000000000000) (by decide) (by decide)
    (by decide) (by decide) rfl rfl rfl).2 (by decide) (by decide)
  exact ⟨hkeeps.found 1700000599 (by decide) (by decide) (by decide) .posix rfl,
    hkeeps.gone 1700000600 (by decide) (by decide) .posix, fun t ht => hover t ht .posix⟩

/-- The largest time to live is over when it begins. -/
theorem largest_ttl_over_at_once :
    let m : IdMapping :=
      { sid := { base := "S-1-5-21-7", rid := 1104 }, windowsDomain := some "CORP"
        windowsName := some "alice", id := { kind := .uid, number := 1001 }
        unixName := some "bob", direction := .toUnix
        expiry := .after 1700000000 0xFFFFFFFFFFFFFFFF }
    let cache : Cache := (Cache.after []).putId m
    cache.idOf m.sid .uid 1700000000 = .error .notFound ∧
      ¬ cache.Keeps m 1700000000 0xFFFFFFFFFFFFFFFF := by
  intro m cache
  have hmissing : cache.idOf m.sid .uid 1700000000 = .error .notFound := by decide +kernel
  refine ⟨hmissing, fun hkeeps => ?_⟩
  have hfound := hkeeps.found 1700000000 (by decide) (by decide) (by decide) .uid rfl
  rw [hmissing] at hfound
  cases hfound

end IdentityMap

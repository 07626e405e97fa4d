/-
Answers are stable under repetition.

A request that was answered is decided from then on.  Either it was decided before, and then
nothing has changed, or its answer was worked out and written.  The row that was written is live,
it is the only one for its key, and it leads the way that was asked for; so the cache gives back
what was put into it.  The engine that is asked again may be a different one, since a request
that is decided does not look at it.

On the way through the cache a unix id loses one thing only, the Windows domain of its name.
-/
import IdentityMap.Proofs.CacheOnly
import IdentityMap.Proofs.RoundTrip

namespace IdentityMap

variable {δ α : Type}

/-! ### What a mapping answers -/

namespace IdMapping

/-- What a mapping answers for its SID. -/
def unixAnswer (m : IdMapping) : Answer :=
  { id := some (.unix m.id), direction := m.direction, failure := none, name := m.unixName }

/-- What a mapping answers for its unix id. -/
def sidAnswer (m : IdMapping) : Answer :=
  { id := some (.sid m.sid), direction := m.direction, failure := none
    name := m.windowsName, domain := m.windowsDomain }

theorem direction_of_toWindows {m : IdMapping} (h : m.direction.isToUnix = true) :
    (if flagIsSet m.row.toWindows then Direction.both else .toUnix) = m.direction := by
  rw [IdMapping.row, flagIsSet_flagColumn]
  cases hdirection : m.direction with
  | both => rfl
  | toUnix => rfl
  | toWindows => rw [hdirection] at h; cases h

theorem direction_of_toUnix {m : IdMapping} (h : m.direction.isToWindows = true) :
    (if flagIsSet m.row.toUnix then Direction.both else .toWindows) = m.direction := by
  rw [IdMapping.row, flagIsSet_flagColumn]
  cases hdirection : m.direction with
  | both => rfl
  | toUnix => rw [hdirection] at h; cases h
  | toWindows => rfl

theorem isUsable_of_isLive {m : IdMapping} {now : Int}
    (h : isLive (some m.expiry.column) now = true) : m.row.isUsable now = true := by
  rw [IdRow.isUsable, IdMapping.row, h, Bool.or_true]

end IdMapping

/-! ### Reading back what was written -/

section Written

variable {cache cache' : Cache} {m : IdMapping} {now : Int} {request : Request}

/-- A row that is found for the SID of its mapping answers with what it says, unless it is an
expired minted id. -/
theorem SidToId.firstPass_of_row (hrow : cache.idRow? m.sid now = some m.row)
    (hsid : request.id = .sid m.sid) (hordinary : WellKnown.idOf m.sid request.wanted = none)
    (hunix : m.direction.isToUnix = true) (hwanted : request.wanted.admits m.id.kind = true)
    (hfresh : IdRow.isExpired m.id.number m.row.expiration now = false) :
    firstPass cache now request = { answer := m.unixAnswer, state := .cacheHit } := by
  let hit : CachedId :=
    { id := m.id, direction := m.direction, unixName := m.unixName, expired := false }
  have hcheck : hit.check request.wanted = .ok () := Wanted.check_of_admits hwanted _
  have hread : m.row.cachedId now = .ok hit := by
    rw [m.row_ties.cachedId_eq, hfresh, m.direction_of_toWindows hunix]
    rfl
  exact firstPass_of_hit hsid hordinary (Cache.idOf_of_idRow? hrow hread (Or.inr hcheck)) rfl
    hcheck

/-- A mapping that was written now and leads from its SID answers for it. -/
theorem SidToId.firstPass_of_wrote (hwrote : cache.Wrote m cache') (hkeyed : cache'.Keyed)
    (hsid : request.id = .sid m.sid) (hordinary : WellKnown.idOf m.sid request.wanted = none)
    (hunix : m.direction.isToUnix = true) (hwanted : request.wanted.admits m.id.kind = true)
    (hlive : isLive (some m.expiry.column) now = true) :
    firstPass cache' now request = { answer := m.unixAnswer, state := .cacheHit } := by
  have hanswers : m.row.answersSid m.sid now = true := by
    refine IdRow.answersSid_iff.mpr ⟨?_, m.row_ties.isAbout, m.isUsable_of_isLive hlive⟩
    rw [IdMapping.row, hunix]
    rfl
  have hfresh : IdRow.isExpired m.id.number m.row.expiration now = false := by
    have hpast : isPast m.row.expiration now = false := by
      rw [isPast_eq_not_isLive, IdMapping.row, hlive]
      rfl
    rw [IdRow.isExpired, hpast, Bool.and_false, Bool.false_and]
  exact firstPass_of_row (hkeyed.idRow?_eq hwrote.written hanswers) hsid hordinary hunix hwanted
    hfresh

/-- A mapping that was written now and leads back from its unix id answers for that. -/
theorem IdToSid.decided_of_wrote (hwrote : cache.Wrote m cache') (hkeyed : cache'.Keyed)
    (hid : request.id = .unix m.id) (hwanted : request.wanted = .sid)
    (hordinary : WellKnown.ofId m.id = none) (hwindows : m.direction.isToWindows = true)
    (hlive : isLive (some m.expiry.column) now = true) :
    Decided cache' now request { answer := m.sidAnswer, state := .cacheHit } := by
  have hanswers : m.row.answersId m.id now = true := by
    refine IdRow.answersId_iff.mpr ⟨?_, rfl, rfl, m.isUsable_of_isLive hlive⟩
    rw [IdMapping.row, hwindows]
    rfl
  have hhit := hkeyed.sidOf_eq hwrote.written m.row_ties hanswers
  rw [m.direction_of_toUnix hwindows] at hhit
  exact decided_of_sidOf hid hwanted hordinary hhit

end Written

/-! ### What is written for a SID -/

namespace SidToId

variable {e : Engine δ α} {rules : RuleTable} {cache : Cache} {now : Int} {found : Found}
  {request : Request} {item : Item} {m m' : Mint α} {sid : Sid}

theorem mintItem_ne_cacheHit {kind : IdKind} {source : NameSource}
    {name : Option WindowsName} {fallback : Fallback} {answer : Answer} :
    (mintItem e now sid kind source name fallback answer m).1.state ≠ .cacheHit := by
  unfold mintItem
  split <;> exact ItemState.noConfusion

theorem applyRules_ne_cacheHit {name : WindowsName} {source : NameSource}
    {fallback : Fallback} :
    (applyRules e rules now request sid name source fallback m).1.state ≠ .cacheHit := by
  unfold applyRules
  split
  · exact ItemState.noConfusion
  · split
    · exact ItemState.noConfusion
    · exact mintItem_ne_cacheHit
    · exact ItemState.noConfusion

theorem settleUnknown_ne_cacheHit {reason : Failure} {fallback : Fallback} :
    (settleUnknown e now request sid reason fallback m).1.state ≠ .cacheHit := by
  unfold settleUnknown
  simp only
  repeat' split
  all_goals first | exact ItemState.noConfusion | exact mintItem_ne_cacheHit

/-- The second pass works its answers out. -/
theorem secondPass_ne_cacheHit (h : item.state.isFinal = false)
    (answer : Option (Except Failure Directory.Entry)) :
    (secondPass e rules now request item answer m).1.state ≠ .cacheHit := by
  have hitem : item.state ≠ .cacheHit := by
    intro hstate
    rw [hstate] at h
    cases h
  unfold secondPass
  repeat' split
  all_goals first
    | exact hitem | exact applyRules_ne_cacheHit | exact settleUnknown_ne_cacheHit

/-- What is worked out for a SID leads from it, and is live when it is written. -/
theorem Outcome.live_of_resolved (h : Outcome e rules cache now found request m item m')
    (hkeeps : e.settings.KeepsIds now) (hok : item.answer.isSuccess = true)
    {resolution : Resolution} (hstate : item.state = .resolved resolution) :
    item.answer.direction.isToUnix = true ∧
      isLive (some resolution.expiry.column) now = true := by
  cases h with
  | failed hfailed | exhausted hfailed _ =>
      rw [hfailed] at hok
      cases hok
  | reserved _ _ | cached _ _ _ => cases hstate
  | ruled _ _ _ _ hmapped =>
      cases hstate
      exact ⟨Rule.isToUnix_of_mapToUnix hmapped, hkeeps.isLive_idExpiry⟩
  | localAccount _ _ _ _ =>
      cases hstate
      exact ⟨rfl, Expiry.isLive_never hkeeps.now_lt⟩
  | minted _ _ _ _ =>
      cases hstate
      exact ⟨rfl, hkeeps.isLive_idExpiry⟩

/-- An item that succeeded and was not decided by the cache was worked out. -/
theorem Conclusion.exists_resolution (h : Conclusion request item)
    (hok : item.answer.isSuccess = true) (hworked : item.state ≠ .cacheHit) :
    ∃ resolution, item.state = .resolved resolution := by
  have hfinal := h.final
  cases hstate : item.state with
  | cacheHit => exact absurd hstate hworked
  | resolved resolution => exact ⟨resolution, rfl⟩
  | failed failure =>
      rw [Answer.isSuccess, (h.failed_iff failure).mp hstate] at hok
      cases hok
  | start | awaitsDirectory _ | awaitsRules _ _ _ =>
      rw [hstate] at hfinal
      cases hfinal

/-- An answer that was worked out for a SID and recorded is read back. -/
theorem firstPass_of_record (hkeeps : e.settings.KeepsIds now)
    (hkeyed : (record e.settings now request item cache).Keyed)
    (hitem : item = (secondPass e rules now request (firstPass cache now request)
      (answerFor found request) m).1) (hok : item.answer.isSuccess = true)
    (hopen : (firstPass cache now request).state.isFinal = false)
    (hsid : request.id = .sid sid) (hordinary : WellKnown.idOf sid request.wanted = none) :
    firstPass (record e.settings now request item cache) now request
      = { answer := { item.answer with domain := none }, state := .cacheHit } := by
  have houtcome := outcome e rules cache now found request m
  have hend := conclusion e rules cache now request (answerFor found request) m
  have hworked : item.state ≠ .cacheHit := by
    rw [hitem]
    exact secondPass_ne_cacheHit hopen _
  rw [← hitem] at houtcome hend
  obtain ⟨id, hid, hwanted⟩ := hend.success hok
  obtain ⟨resolution, hstate⟩ := hend.exists_resolution hok hworked
  obtain ⟨hunix, hlive⟩ := houtcome.live_of_resolved hkeeps hok hstate
  have hw := written?_of_resolved hstate hsid hid hok
  have hanswer : { item.answer with domain := none }
      = (resolution.mapping sid id item.answer.name item.answer.direction).unixAnswer := by
    rw [Answer.isSuccess, Option.isNone_iff_eq_none] at hok
    simp only [IdMapping.unixAnswer, Resolution.mapping, hid, hok]
  rw [hanswer]
  exact firstPass_of_wrote (wrote_record e.settings now cache hw) hkeyed hsid
    hordinary hunix hwanted hlive

/-- Domains are left to the second pass. -/
theorem domain_firstPass (cache : Cache) (now : Int) (request : Request) :
    (firstPass cache now request).answer.domain = none := by
  unfold firstPass searchCache findName cacheAnswer
  repeat' split
  all_goals rfl

/-- A SID that was answered is decided from then on. -/
theorem isIdle_of_answer {s : EngineState δ α} {answer : Answer}
    (hkeeps : e.settings.KeepsIds now) (hkeyed : (e.mapSids now [request] s).2.cache.Keyed)
    (hanswer : (e.mapSids now [request] s).1 = [answer]) (hok : answer.isSuccess = true) :
    (firstPass (e.mapSids now [request] s).2.cache now request).state.isIdle = true ∧
      (firstPass (e.mapSids now [request] s).2.cache now request).answer
        = { answer with domain := none } := by
  rcases isIdle_or_open_firstPass s.cache now request with hidle | ⟨hopen, sid, hsid, hordinary⟩
  · rw [mapSids_of_isIdle e s hidle] at hanswer ⊢
    rw [← (List.cons.inj hanswer).1, ← domain_firstPass s.cache now request]
    exact ⟨hidle, rfl⟩
  · have hcache : (e.mapSids now [request] s).2.cache = record e.settings now request
        (secondPass e s.rules now request (firstPass s.cache now request)
          (answerFor (batchFound e now [request] s).1 request) { allocator := s.allocator }).1
        s.cache := by
      rw [mapSids_eq]
      rfl
    rw [mapSids_singleton] at hanswer
    obtain rfl := (List.cons.inj hanswer).1
    rw [hcache] at hkeyed ⊢
    rw [firstPass_of_record hkeeps hkeyed rfl hok hopen hsid hordinary]
    exact ⟨rfl, rfl⟩

end SidToId

/-! ### What is written for a unix id -/

namespace IdToSid

variable {e : Engine δ α} {rules : RuleTable} {cache : Cache} {now : Int} {request : Request}
  {item : Item} {id : UnixId} {s : δ}

/-- What is worked out for a unix id is written; it leads back from it, and is live. -/
theorem Outcome.exists_written (h : Outcome e cache rules now request s item)
    (hopen : LeftOpen cache now request id) (hkeeps : e.settings.KeepsIds now)
    (hok : item.answer.isSuccess = true) :
    ∃ w, written? e.names request item = some w ∧ w.id = id ∧ w.direction.isToWindows = true ∧
      isLive (some w.expiry.column) now = true ∧ w.sidAnswer = item.answer := by
  cases h with
  | failed hfailed =>
      rw [hfailed] at hok
      cases hok
  | reserved hid hentry =>
      obtain rfl := Identity.unix.inj (hopen.asked.symm.trans hid)
      rw [hopen.notReserved] at hentry
      cases hentry
  | cached hid _ hhit =>
      obtain rfl := Identity.unix.inj (hopen.asked.symm.trans hid)
      rw [hopen.uncached] at hhit
      cases hhit
  | ruled hid _ _ _ hmapped =>
      obtain rfl := Identity.unix.inj (hopen.asked.symm.trans hid)
      obtain ⟨⟨rule, -, -, hdirection⟩, -⟩ := Rule.mapToWindows_ok hmapped
      refine ⟨_, written?_of_resolved rfl hid rfl hok, rfl, ?_, hkeeps.isLive_idExpiry, rfl⟩
      show Direction.isToWindows _ = true
      rw [Resolution.mapping, ruledItem, hdirection]
      by_cases hback : applies rule.toUnixOrder = true
      · rw [if_pos hback]
        rfl
      · rw [if_neg hback]
        rfl
  | localAccount hid _ _ _ _ =>
      obtain rfl := Identity.unix.inj (hopen.asked.symm.trans hid)
      exact ⟨_, written?_of_resolved rfl hid rfl hok, rfl, rfl,
        Expiry.isLive_never hkeeps.now_lt, rfl⟩

/-- An answer that was worked out for a unix id and recorded is read back. -/
theorem decided_of_record (hopen : LeftOpen cache now request id)
    (hkeeps : e.settings.KeepsIds now)
    (hkeyed : (record e.settings e.names now request
      (resolve e cache rules now request s).1 cache).Keyed)
    (hok : (resolve e cache rules now request s).1.answer.isSuccess = true) :
    Decided (record e.settings e.names now request (resolve e cache rules now request s).1 cache)
      now request
      { answer := (resolve e cache rules now request s).1.answer, state := .cacheHit } := by
  obtain ⟨w, hw, rfl, hwindows, hlive, hanswer⟩ :=
    (outcome e cache rules now request s).exists_written hopen hkeeps hok
  rw [← hanswer]
  exact decided_of_wrote (wrote_record e.settings e.names now cache hw) hkeyed hopen.asked
    hopen.wanted hopen.notReserved hwindows hlive

/-- A unix id that was answered is decided from then on. -/
theorem decided_of_answer {s : EngineState δ α} {answer : Answer}
    (hkeeps : e.settings.KeepsIds now) (hkeyed : (e.mapIds now [request] s).2.cache.Keyed)
    (hanswer : (e.mapIds now [request] s).1 = [answer]) (hok : answer.isSuccess = true) :
    ∃ item, Decided (e.mapIds now [request] s).2.cache now request item ∧
      item.answer = answer := by
  rcases decided_or_leftOpen s.cache now request with ⟨item, hdecided⟩ | ⟨id, hopen⟩
  · rw [hdecided.mapIds e] at hanswer ⊢
    exact ⟨item, hdecided, (List.cons.inj hanswer).1⟩
  · obtain rfl := (List.cons.inj hanswer).1
    exact ⟨_, decided_of_record hopen hkeeps hkeyed hok, rfl⟩

end IdToSid

/--
**What was answered is answered again, and nobody is asked.**

If a request for one SID succeeds, the same request at the same time gets the same id, direction
and name; if one for a unix id succeeds, it gets the very same answer.  The second time the cache
is all that counts: the engine and everything else in the state may be others, and the state
stays as it is, so neither the directory nor the authority hears of the request.
-/
theorem same_answer_again (s : EngineState δ α) (hs : s.Reachable) (e : Engine δ α) (now : Int)
    (hpositive : 1 ≤ e.settings.idTtl) (hfits : e.settings.idTtl ≤ 0x7FFFFFFFFFFFFFFF)
    (hnow : now < maxTime) (request : Request) :
    (∀ answer, (e.mapSids now [request] s).1 = [answer] → answer.isSuccess = true →
      ∀ {δ' α' : Type} (e' : Engine δ' α') (s' : EngineState δ' α'),
        s'.cache = (e.mapSids now [request] s).2.cache →
        e'.mapSids now [request] s' = ([{ answer with domain := none }], s')) ∧
    (∀ answer, (e.mapIds now [request] s).1 = [answer] → answer.isSuccess = true →
      ∀ {δ' α' : Type} (e' : Engine δ' α') (s' : EngineState δ' α'),
        s'.cache = (e.mapIds now [request] s).2.cache →
        e'.mapIds now [request] s' = ([answer], s')) := by
  have hkeeps : e.settings.KeepsIds now := ⟨hpositive, hfits, hnow⟩
  constructor
  · intro answer hanswer hok δ' α' e' s' hcache
    have hkeyed : (e.mapSids now [request] s).2.cache.Keyed :=
      (hs.call e now (.mapSids [request])).keyed
    obtain ⟨hidle, hagain⟩ := SidToId.isIdle_of_answer hkeeps hkeyed hanswer hok
    rw [← hcache] at hidle hagain
    rw [mapSids_of_isIdle e' s' hidle, hagain]
  · intro answer hanswer hok δ' α' e' s' hcache
    have hkeyed : (e.mapIds now [request] s).2.cache.Keyed :=
      (hs.call e now (.mapIds [request])).keyed
    obtain ⟨item, hdecided, hitem⟩ := IdToSid.decided_of_answer hkeeps hkeyed hanswer hok
    rw [← hcache] at hdecided
    rw [hdecided.mapIds e', hitem]

/-- On a host with a machine SID, a foreign SID was given a minted id and a local account its
local SID.  With the cache that is left, every engine gives them again. -/
theorem same_answer_again_minted_and_local :
    let e : Engine Unit SequentialIds :=
      { Engine.bare with settings := { machineSid := some "S-1-5-21-7" } }
    let s : EngineState Unit SequentialIds := .fresh {} () .aboveReserved
    let foreign : Request := { id := .sid { base := "S-1-5-21-9", rid := 1104 }, wanted := .posix }
    let account : Request := { id := .unix { kind := .uid, number := 1001 }, wanted := .sid }
    let minted : Answer :=
      { id := some (.unix { kind := .uid, number := 0x80000001 }), failure := none }
    let own : Answer :=
      { id := some (.sid { base := "S-1-5-21-7", rid := 2001 }), failure := none }
    (∀ {δ α : Type} (e' : Engine δ α) (s' : EngineState δ α),
      s'.cache = (e.mapSids 0 [foreign] s).2.cache → e'.mapSids 0 [foreign] s' = ([minted], s')) ∧
    (∀ {δ α : Type} (e' : Engine δ α) (s' : EngineState δ α),
      s'.cache = (e.mapIds 0 [account] s).2.cache → e'.mapIds 0 [account] s' = ([own], s')) := by
  intro e s foreign account minted own
  have hs : s.Reachable := .start {} () { authority := SequentialIds.aboveReserved }
  have hminted : (e.mapSids 0 [foreign] s).1 = [minted] := by decide +kernel
  have hown : (e.mapIds 0 [account] s).1 = [own] := by decide +kernel
  constructor
  · exact (same_answer_again s hs e 0 (by decide) (by decide) (by decide) foreign).1
      minted hminted rfl
  · exact (same_answer_again s hs e 0 (by decide) (by decide) (by decide) account).2
      own hown rfl

end IdentityMap

/-
Answers that hold both ways can be taken back.

Whatever an answer comes from, there is a row of the id table behind it when the call is
over: the one it was read from, or the one that was written for it.  If the answer holds in
both directions, so does the row.  And no other row shares a key with it, so a lookup the
other way, at the same time, sees that very row and answers from it.

The answer may not concern a reserved identity, because reserved identities are answered
from their table, which is not one-to-one.  A minted unix id has no way of its own to a SID:
it is only ever asked for after the SID was.
-/
import IdentityMap.Proofs.Mapping.Conclusion
import IdentityMap.Proofs.Mapping.Single
import IdentityMap.Proofs.Mapping.Writes

namespace IdentityMap

variable {δ α : Type}

/-! ### Reachable states -/

/-- A state that an empty cache leads to.  Calls may be made with any engine and at any
time, the cache may be written to directly, and meanwhile anything may happen to the rules,
the directory and the allocator. -/
inductive EngineState.Reachable : EngineState δ α → Prop
  | start (rules : RuleTable) (directory : δ) (allocator : Allocator α) :
      Reachable { cache := {}, rules, directory, allocator }
  | call {s : EngineState δ α} (h : Reachable s) (e : Engine δ α) (now : Int) (call : Call) :
      Reachable (call.run e now s).2
  | putId {s : EngineState δ α} (h : Reachable s) (m : IdMapping) :
      Reachable { s with cache := s.cache.putId m }
  | putName {s : EngineState δ α} (h : Reachable s) (m : NameMapping) :
      Reachable { s with cache := s.cache.putName m }
  | supersede {s : EngineState δ α} (h : Reachable s) (sid : Sid) (kind : IdKind) :
      Reachable { s with cache := s.cache.supersede sid kind }
  | elsewhere {s : EngineState δ α} (h : Reachable s) (rules : RuleTable) (directory : δ)
      (allocator : Allocator α) : Reachable { s with rules, directory, allocator }

/-- No two rows of a reachable cache share a key. -/
theorem EngineState.Reachable.keyed {s : EngineState δ α} (h : s.Reachable) :
    s.cache.Keyed := by
  induction h with
  | start _ _ _ => exact .empty
  | call _ e now call ih => exact Cache.Keyed.lasting.call e.writes_anything ih call
  | putId _ m ih => exact ih.putId m
  | putName _ m ih => exact ih.congr rfl
  | supersede _ sid kind ih => exact ih.supersede sid kind
  | elsewhere _ _ _ _ ih => exact ih

theorem EngineState.Reachable.mapSids {s : EngineState δ α} (h : s.Reachable) (e : Engine δ α)
    (now : Int) (requests : List Request) : (e.mapSids now requests s).2.Reachable :=
  h.call e now (.mapSids requests)

/-! ### Rows that are written now -/

/-- A time to live that fits the clock is added to the time. -/
theorem Expiry.column_after (now : Int) {ttl : Nat} (hfits : ttl ≤ 0x7FFFFFFFFFFFFFFF) :
    (after now ttl).column = clampTime (now + ttl) := by
  have hword : Int.bmod ttl 0x10000000000000000 = ttl := by
    rw [Int.bmod_def]
    omega
  rw [after, column, hword]

/-- A time to live that fits the clock ends later than now. -/
theorem Expiry.isLive_after {now : Int} {ttl : Nat} (hpositive : 1 ≤ ttl)
    (hfits : ttl ≤ 0x7FFFFFFFFFFFFFFF) (hnow : now < maxTime) :
    isLive (some (after now ttl).column) now = true := by
  have hlater : now < clampTime (now + ttl) := by
    unfold clampTime
    omega
  rw [column_after now hfits]
  simp [isLive, hlater]

theorem Expiry.isLive_never {now : Int} (hnow : now < maxTime) :
    isLive (some never.column) now = true := by
  have hlater : now < noExpiry := hnow
  simp [isLive, column, hlater]

/-- The cache has a row that may be used now and leads from the SID to the unix id and back. -/
def Cache.HoldsBoth (cache : Cache) (sid : Sid) (id : UnixId) (now : Int) : Prop :=
  ∃ row ∈ cache.ids, row.Ties sid id ∧ row.toUnix = some 1 ∧ row.toWindows = some 1 ∧
    row.isUsable now = true

/-- A mapping in both directions that is live is such a row. -/
theorem Cache.holdsBoth_of_wrote {cache cache' : Cache} {m : IdMapping} {now : Int}
    (h : cache.Wrote m cache') (hdirection : m.direction = .both)
    (hlive : isLive (some m.expiry.column) now = true) : cache'.HoldsBoth m.sid m.id now := by
  have hunix : m.row.toUnix = some 1 := by rw [IdMapping.row, hdirection]; rfl
  have hwindows : m.row.toWindows = some 1 := by rw [IdMapping.row, hdirection]; rfl
  have husable : m.row.isUsable now = true := by
    rw [IdRow.isUsable, IdMapping.row, hlive, Bool.or_true]
  exact ⟨m.row, h.written, m.row_ties, hunix, hwindows, husable⟩

/-- A row that is written now with the settings' time to live is live. -/
structure Settings.KeepsIds (settings : Settings) (now : Int) : Prop where
  positive : 1 ≤ settings.idTtl
  fits : settings.idTtl ≤ 0x7FFFFFFFFFFFFFFF
  now_lt : now < maxTime

theorem Settings.KeepsIds.isLive_idExpiry {settings : Settings} {now : Int}
    (h : settings.KeepsIds now) : isLive (some (settings.idExpiry now).column) now = true :=
  Expiry.isLive_after h.positive h.fits h.now_lt

/-! ### The row behind an answer -/

section Row

variable {e : Engine δ α} {rules : RuleTable} {cache : Cache} {now : Int} {request : Request}
  {item : Item} {sid : Sid} {id : UnixId}

/-- A row that was read in one direction, and that holds in both, holds both ways. -/
theorem Cache.WellFormed.holdsBoth_of_idOf (h : cache.WellFormed) {wanted : Wanted}
    {hit : CachedId} (hhit : cache.idOf sid wanted now = .ok hit)
    (hdirection : hit.direction = .both) : cache.HoldsBoth sid hit.id now := by
  obtain ⟨row, hrow, hties, hanswers, hback⟩ :=
    h.answersId_of_idOf hhit (by rw [hdirection]; rfl)
  obtain ⟨hunix, -, husable⟩ := IdRow.answersSid_iff.mp hanswers
  exact ⟨row, hrow, hties, hunix, (IdRow.answersId_iff.mp hback).1, husable⟩

theorem Cache.WellFormed.holdsBoth_of_sidOf (h : cache.WellFormed) {hit : CachedSid}
    (hhit : cache.sidOf id now = .ok hit) (hdirection : hit.direction = .both) :
    cache.HoldsBoth hit.sid id now := by
  obtain ⟨row, hrow, hties, hanswers, hback⟩ :=
    h.answersSid_of_sidOf hhit (by rw [hdirection]; rfl)
  obtain ⟨hunix, -, husable⟩ := IdRow.answersSid_iff.mp hback
  exact ⟨row, hrow, hties, hunix, (IdRow.answersId_iff.mp hanswers).1, husable⟩

/-- What was worked out for a SID, in both directions, is written as such a row. -/
theorem SidToId.holdsBoth_record {resolution : Resolution} (hsid : request.id = .sid sid)
    (hstate : item.state = .resolved resolution) (hid : item.answer.id = some (.unix id))
    (hok : item.answer.isSuccess = true) (hdirection : item.answer.direction = .both)
    (hlive : isLive (some resolution.expiry.column) now = true) :
    (record e.settings now request item cache).HoldsBoth sid id now := by
  have hwrote := wrote_record e.settings now cache (written?_of_resolved hstate hsid hid hok)
  exact Cache.holdsBoth_of_wrote hwrote hdirection hlive

theorem IdToSid.holdsBoth_record {resolution : Resolution} (hid : request.id = .unix id)
    (hstate : item.state = .resolved resolution) (hsid : item.answer.id = some (.sid sid))
    (hok : item.answer.isSuccess = true) (hdirection : item.answer.direction = .both)
    (hlive : isLive (some resolution.expiry.column) now = true) :
    (record e.settings e.names now request item cache).HoldsBoth sid id now := by
  have hwrote := wrote_record e.settings e.names now cache
    (written?_of_resolved hstate hid hsid hok)
  exact Cache.holdsBoth_of_wrote hwrote hdirection hlive

/-- An answer for a SID that holds both ways has a row behind it once it is recorded. -/
theorem SidToId.Outcome.holdsBoth {found : SidToId.Found} {m m' : Mint α}
    (h : SidToId.Outcome e rules cache now found request m item m') (hcache : cache.WellFormed)
    (hkeeps : e.settings.KeepsIds now) (hsid : request.id = .sid sid)
    (hok : item.answer.isSuccess = true) (hid : item.answer.id = some (.unix id))
    (hdirection : item.answer.direction = .both) (hordinary : WellKnown.ofId id = none) :
    (SidToId.record e.settings now request item cache).HoldsBoth sid id now := by
  cases h with
  | failed hfailed =>
      rw [hfailed] at hok
      cases hok
  | exhausted hfailed _ =>
      rw [hfailed] at hok
      cases hok
  | @reserved _ _ direction _ hreserved =>
      cases hid
      have hwindows : direction.isToWindows = true := by
        change direction = .both at hdirection
        rw [hdirection]
        rfl
      exact absurd hordinary (WellKnown.ofId_ne_none hreserved hwindows)
  | cached hsid' hhit _ =>
      obtain rfl := Identity.sid.inj (hsid.symm.trans hsid')
      cases hid
      exact hcache.holdsBoth_of_idOf hhit hdirection
  | ruled _ _ _ _ _ =>
      exact SidToId.holdsBoth_record hsid rfl hid hok hdirection hkeeps.isLive_idExpiry
  | localAccount _ _ _ _ =>
      exact SidToId.holdsBoth_record hsid rfl hid hok hdirection (Expiry.isLive_never hkeeps.now_lt)
  | minted _ _ _ _ =>
      exact SidToId.holdsBoth_record hsid rfl hid hok hdirection hkeeps.isLive_idExpiry

/-- An answer for a unix id that holds both ways has a row behind it once it is recorded. -/
theorem IdToSid.Outcome.holdsBoth {d : δ} (h : IdToSid.Outcome e cache rules now request d item)
    (hcache : cache.WellFormed) (hkeeps : e.settings.KeepsIds now) (hid : request.id = .unix id)
    (hok : item.answer.isSuccess = true) (hsid : item.answer.id = some (.sid sid))
    (hdirection : item.answer.direction = .both) (hordinary : WellKnown.ofSid sid = none) :
    (IdToSid.record e.settings e.names now request item cache).HoldsBoth sid id now := by
  cases h with
  | failed hfailed =>
      rw [hfailed] at hok
      cases hok
  | reserved _ hentry =>
      cases hsid
      exact absurd hordinary (WellKnown.ofSid_ne_none hentry)
  | cached hid' _ hhit =>
      obtain rfl := Identity.unix.inj (hid.symm.trans hid')
      cases hsid
      exact hcache.holdsBoth_of_sidOf hhit hdirection
  | ruled _ _ _ _ _ =>
      exact IdToSid.holdsBoth_record hid rfl hsid hok hdirection hkeeps.isLive_idExpiry
  | localAccount _ _ _ _ _ =>
      exact IdToSid.holdsBoth_record hid rfl hsid hok hdirection
        (Expiry.isLive_never hkeeps.now_lt)

end Row

/-! ### Single requests -/

section Single

variable {e : Engine δ α} {now : Int} {request : Request} {s : EngineState δ α} {reply : Reply}
  {sid : Sid} {id : UnixId}

/-- The reply to a single SID tells the outcome of its item, which is then recorded. -/
theorem exists_outcome_of_mem_mapSids
    (h : reply ∈ replies [request] (e.mapSids now [request] s).1) :
    ∃ item found m m', SidToId.Outcome e s.rules s.cache now found request m item m' ∧
      reply = { asked := request.id, answer := item.answer } ∧
      (e.mapSids now [request] s).2.cache
        = SidToId.record e.settings now request item s.cache := by
  rw [mapSids_eq] at h ⊢
  exact ⟨_, _, _, _, SidToId.outcome e s.rules s.cache now _ request _,
    List.mem_singleton.mp h, rfl⟩

theorem Reply.GivesId.holdsBoth (hgives : reply.GivesId sid id) (hs : s.cache.WellFormed)
    (hkeeps : e.settings.KeepsIds now)
    (h : reply ∈ replies [request] (e.mapSids now [request] s).1)
    (hdirection : reply.answer.direction = .both) (hordinary : WellKnown.ofId id = none) :
    (e.mapSids now [request] s).2.cache.HoldsBoth sid id now := by
  obtain ⟨item, found, m, m', houtcome, rfl, hcache⟩ := exists_outcome_of_mem_mapSids h
  obtain ⟨hsid, hok, hid⟩ := hgives
  rw [hcache]
  exact houtcome.holdsBoth hs hkeeps hsid hok hid hdirection hordinary

theorem Reply.GivesSid.holdsBoth (hgives : reply.GivesSid id sid) (hs : s.cache.WellFormed)
    (hkeeps : e.settings.KeepsIds now)
    (h : reply ∈ replies [request] (e.mapIds now [request] s).1)
    (hdirection : reply.answer.direction = .both) (hordinary : WellKnown.ofSid sid = none) :
    (e.mapIds now [request] s).2.cache.HoldsBoth sid id now := by
  obtain rfl : reply = { asked := request.id, answer := (e.mapId now request s).1 } :=
    List.mem_singleton.mp h
  obtain ⟨hid, hok, hsid⟩ := hgives
  exact (IdToSid.outcome e s.cache s.rules now request s.directory).holdsBoth hs hkeeps hid hok
    hsid hdirection hordinary

/-- A row that holds both ways answers for its unix id. -/
theorem Cache.HoldsBoth.mapIds (h : s.cache.HoldsBoth sid id now) (hs : s.cache.Keyed)
    (hordinary : WellKnown.ofId id = none) (hid : request.id = .unix id)
    (hwanted : request.wanted = .sid) :
    ∃ reply, replies [request] (e.mapIds now [request] s).1 = [reply] ∧
      reply.GivesSid id sid ∧ reply.answer.direction = .both := by
  obtain ⟨row, hrow, hties, hunix, hwindows, husable⟩ := h
  have hanswers : row.answersId id now = true :=
    IdRow.answersId_iff.mpr ⟨hwindows, hties.number, hties.isUser, husable⟩
  have hanswer := answer_of_sidOf e hordinary (hs.sidOf_eq hrow hties hanswers) hid hwanted
  refine ⟨{ asked := request.id, answer := (e.mapId now request s).1 }, rfl, ?_, ?_⟩
  · exact ⟨hid, by rw [hanswer]; rfl, by rw [hanswer]⟩
  · rw [hanswer, hunix]
    rfl

/-- A row that holds both ways gives its SID the unix id, which is not stale if it was not
minted. -/
theorem Cache.HoldsBoth.idOf {cache : Cache} (h : cache.HoldsBoth sid id now)
    (hkeyed : cache.Keyed) (hminted : isEphemeral id.number = false) {wanted : Wanted}
    (hwanted : wanted.admits id.kind = true) :
    ∃ hit, cache.idOf sid wanted now = .ok hit ∧ hit.id = id ∧ hit.expired = false ∧
      hit.check wanted = .ok () := by
  obtain ⟨row, hrow, hties, hunix, -, husable⟩ := h
  have hanswers : row.answersSid sid now = true :=
    IdRow.answersSid_iff.mpr ⟨hunix, hties.isAbout, husable⟩
  have hexpired : IdRow.isExpired id.number row.expiration now = false := by
    rw [IdRow.isExpired, hminted, Bool.false_and, Bool.false_and]
  let hit : CachedId :=
    { id, direction := if flagIsSet row.toWindows then .both else .toUnix
      unixName := row.unixName, expired := false }
  have hcheck : hit.check wanted = .ok () := Wanted.check_of_admits hwanted _
  have hread : row.cachedId now = .ok hit := by
    rw [hties.cachedId_eq, hexpired]
  exact ⟨hit, hkeyed.idOf_eq hrow hanswers hread hcheck, rfl, rfl, hcheck⟩

/-- A row that holds both ways answers for its SID, if its unix id was not minted and is of a
kind that is asked for. -/
theorem Cache.HoldsBoth.mapSids (h : s.cache.HoldsBoth sid id now) (hs : s.cache.Keyed)
    (hordinary : WellKnown.ofSid sid = none) (hminted : isEphemeral id.number = false)
    (hsid : request.id = .sid sid) (hwanted : request.wanted.admits id.kind = true) :
    ∃ reply, replies [request] (e.mapSids now [request] s).1 = [reply] ∧
      reply.GivesId sid id := by
  obtain ⟨hit, hhit, rfl, hfresh, hcheck⟩ := h.idOf hs hminted hwanted
  have hfirst : SidToId.firstPass s.cache now request
      = { answer := SidToId.cachedAnswer hit, state := .cacheHit } :=
    SidToId.firstPass_of_hit hsid (WellKnown.idOf_of_ordinary hordinary _) hhit
      (by rw [hfresh]; rfl) hcheck
  rw [mapSids_singleton, hfirst, SidToId.secondPass_of_isFinal rfl]
  exact ⟨_, rfl, hsid, rfl, rfl⟩

end Single

/--
**Answers that hold both ways can be taken back.**

If a SID is given a unix id in both directions, the id leads back to that SID in both
directions; if a unix id that was not minted is given a SID in both directions, the SID leads
back to the id.  Reserved ids and reserved SIDs are left out.
-/
theorem round_trip_of_both (s : EngineState δ α) (hs : s.Reachable) (e : Engine δ α) (now : Int)
    (hpositive : 1 ≤ e.settings.idTtl) (hfits : e.settings.idTtl ≤ 0x7FFFFFFFFFFFFFFF)
    (hnow : now < maxTime) (request : Request) :
    (∀ reply ∈ replies [request] (e.mapSids now [request] s).1, ∀ sid id,
      reply.GivesId sid id → reply.answer.direction = .both → WellKnown.ofId id = none →
      ∀ back : Request, back.id = .unix id → back.wanted = .sid →
        ∃ reply', replies [back] (e.mapIds now [back] (e.mapSids now [request] s).2).1 = [reply'] ∧
          reply'.GivesSid id sid ∧ reply'.answer.direction = .both) ∧
    (∀ reply ∈ replies [request] (e.mapIds now [request] s).1, ∀ id sid,
      reply.GivesSid id sid → reply.answer.direction = .both → isEphemeral id.number = false →
      WellKnown.ofSid sid = none →
      ∀ there : Request, there.id = .sid sid → there.wanted.admits id.kind = true →
        ∃ reply', replies [there] (e.mapSids now [there] (e.mapIds now [request] s).2).1
            = [reply'] ∧ reply'.GivesId sid id) := by
  have hkeeps : e.settings.KeepsIds now := ⟨hpositive, hfits, hnow⟩
  have hrows : s.cache.WellFormed := hs.keyed.wellFormed
  constructor
  · intro reply hreply sid id hgives hdirection hordinary back hid hwanted
    have hboth := hgives.holdsBoth hrows hkeeps hreply hdirection hordinary
    have hkeyed : (e.mapSids now [request] s).2.cache.Keyed :=
      (hs.call e now (.mapSids [request])).keyed
    exact hboth.mapIds hkeyed hordinary hid hwanted
  · intro reply hreply id sid hgives hdirection hminted hordinary there hsid hwanted
    have hboth := hgives.holdsBoth hrows hkeeps hreply hdirection hordinary
    have hkeyed : (e.mapIds now [request] s).2.cache.Keyed :=
      (hs.call e now (.mapIds [request])).keyed
    exact hboth.mapSids hkeyed hordinary hminted hsid hwanted

/-- On a host with a machine SID, a foreign SID is given a minted id and a local account its
local SID, and both are taken back. -/
theorem round_trip_of_both_minted_and_local :
    let e : Engine Unit SequentialIds :=
      { Engine.bare with settings := { machineSid := some "S-1-5-21-7" } }
    let s : EngineState Unit SequentialIds := .fresh {} () .aboveReserved
    let foreign : Sid := { base := "S-1-5-21-9", rid := 1104 }
    let minted : UnixId := { kind := .uid, number := 0x80000001 }
    let account : UnixId := { kind := .uid, number := 1001 }
    let own : Sid := { base := "S-1-5-21-7", rid := 2001 }
    let there : Request := { id := .sid foreign, wanted := .posix }
    let back : Request := { id := .unix account, wanted := .sid }
    (∃ reply, replies [{ id := .unix minted, wanted := .sid }]
        (e.mapIds 0 [{ id := .unix minted, wanted := .sid }] (e.mapSids 0 [there] s).2).1
          = [reply] ∧
      reply.GivesSid minted foreign ∧ reply.answer.direction = .both) ∧
    (∃ reply, replies [{ id := .sid own, wanted := .uid }]
        (e.mapSids 0 [{ id := .sid own, wanted := .uid }] (e.mapIds 0 [back] s).2).1 = [reply] ∧
      reply.GivesId own account) := by
  intro e s foreign minted account own there back
  have hs : s.Reachable := .start {} () { authority := SequentialIds.aboveReserved }
  have hthere : replies [there] (e.mapSids 0 [there] s).1
      = [{ asked := .sid foreign, answer := { id := some (.unix minted), failure := none } }] := by
    decide +kernel
  have hback : replies [back] (e.mapIds 0 [back] s).1
      = [{ asked := .unix account, answer := { id := some (.sid own), failure := none } }] := by
    decide +kernel
  constructor
  · refine (round_trip_of_both s hs e 0 (by decide) (by decide) (by decide) there).1
      _ (by rw [hthere]; exact List.mem_cons_self ..) foreign minted ⟨rfl, rfl, rfl⟩ rfl
      (by decide +kernel) _ rfl rfl
  · refine (round_trip_of_both s hs e 0 (by decide) (by decide) (by decide) back).2
      _ (by rw [hback]; exact List.mem_cons_self ..) account own ⟨rfl, rfl, rfl⟩ rfl rfl
      (by decide +kernel) _ rfl rfl

end IdentityMap

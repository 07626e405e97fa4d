/-
What becomes of a minted id that is past its time.

Its row stays in the cache and leads from its SID as before, but the engine takes it for a
reminder only and resolves the SID anew.  So whatever comes out of that is written over the row.

If nothing is known of the SID, the reminder does its work and the id is renewed.  If the SID
comes to another id, the old one can keep its way back, as it may be all over the disks by
then; but only if the write takes the direction to unix from its row first.  The rules do so.
A local account does not, and then the row goes with all that it says.
-/
import IdentityMap.Proofs.Cache.Overwriting
import IdentityMap.Proofs.Denial
import IdentityMap.Proofs.OneRound
import IdentityMap.Proofs.WayBack

namespace IdentityMap

variable {δ α : Type}

/-! ### Stale rows -/

/-- The row leads from the SID to a minted id, and is past its time. -/
structure IdRow.IsStale (row : IdRow) (sid : Sid) (id : UnixId) (now : Int) : Prop where
  ties : row.Ties sid id
  toUnix : row.toUnix = some 1
  expired : IdRow.isExpired id.number row.expiration now = true

namespace IdRow.IsStale

variable {row : IdRow} {sid : Sid} {id : UnixId} {now : Int}

theorem isEphemeral (h : row.IsStale sid id now) : isEphemeral id.number = true := by
  have hexpired := h.expired
  simp only [isExpired, Bool.and_eq_true] at hexpired
  exact hexpired.1.1

/-- A row with a minted id may be used at any time. -/
theorem isUsable (h : row.IsStale sid id now) (time : Int) : row.isUsable time = true := by
  rw [IdRow.isUsable, h.ties.isMinted, h.isEphemeral, Bool.true_or]

theorem ne_of_not_minted (h : row.IsStale sid id now) {other : UnixId}
    (hminted : IdentityMap.isEphemeral other.number = false) : other ≠ id := by
  rintro rfl
  rw [h.isEphemeral] at hminted
  cases hminted

theorem answersSid (h : row.IsStale sid id now) (time : Int) : row.answersSid sid time = true :=
  answersSid_iff.mpr ⟨h.toUnix, h.ties.isAbout, h.isUsable time⟩

end IdRow.IsStale

section Stale

variable {cache : Cache} {row : IdRow} {sid : Sid} {old : UnixId} {now : Int} {request : Request}

/-- The id of a stale row is found, whatever is asked for. -/
theorem Cache.Keyed.idOf_of_isStale (h : cache.Keyed) (hrow : row ∈ cache.ids)
    (hstale : row.IsStale sid old now) (wanted : Wanted) :
    ∃ hit, cache.idOf sid wanted now = .ok hit ∧ hit.id = old ∧ hit.expired = true := by
  have hread := hstale.ties.cachedId_eq now
  rw [hstale.expired] at hread
  exact ⟨_, idOf_of_idRow? (h.idRow?_eq hrow (hstale.answersSid now)) hread (Or.inl rfl), rfl, rfl⟩

/-- It is what an item about its SID is reminded of. -/
theorem SidToId.Spare.eq_of_isStale {fallback : Fallback}
    (hspare : Spare cache now request sid fallback) (h : cache.Keyed) (hrow : row ∈ cache.ids)
    (hstale : row.IsStale sid old now) : fallback = some old := by
  obtain ⟨hit, hhit, rfl, -⟩ := h.idOf_of_isStale hrow hstale request.wanted
  cases hspare with
  | nothing hmissing =>
      rw [hhit] at hmissing
      cases hmissing
  | expired hfound _ =>
      rw [hhit] at hfound
      cases hfound
      rfl

end Stale

/-! ### Another id in its place -/

theorem Expiry.isLive_never_iff {now : Int} :
    isLive (some never.column) now = true ↔ now < maxTime := by
  constructor
  · intro hlive
    simp only [isLive, column, Bool.or_eq_true, beq_iff_eq] at hlive
    rcases hlive with hzero | hlater
    · cases hzero
    · exact of_decide_eq_true hlater
  · exact isLive_never

/-- A time to live that fits the clock ends later than now, unless the clock has run out. -/
theorem Expiry.isLive_after_iff {now : Int} {ttl : Nat} (hpositive : 1 ≤ ttl)
    (hfits : ttl ≤ 0x7FFFFFFFFFFFFFFF) :
    isLive (some (after now ttl).column) now = true ↔ now < maxTime := by
  constructor
  · intro hlive
    by_contra hnow
    have hclamped : clampTime (now + ttl) = maxTime := by
      unfold clampTime minTime maxTime
      unfold maxTime at hnow
      omega
    rw [column_after now hfits, hclamped] at hlive
    exact hnow (isLive_never_iff.mp hlive)
  · exact isLive_after hpositive hfits

namespace SidToId

/-- What is worked out for a SID whose minted id is past its time, if it is not a minted id. -/
structure Replacement (now : Int) (request : Request) (item : Item) (sid : Sid) (old id : UnixId)
    (resolution : Resolution) : Prop where
  asked : request.id = .sid sid
  success : item.answer.isSuccess = true
  answered : item.answer.id = some (.unix id)
  notMinted : isEphemeral id.number = false
  resolved : item.state = .resolved resolution
  toUnix : item.answer.direction.isToUnix = true
  /-- It is in force from now on, unless the clock has run out. -/
  live : isLive (some resolution.expiry.column) now = true ↔ now < maxTime
  /-- A rule, which says the unix name, knows of the old id. -/
  ruled : item.answer.name ≠ none → resolution.superseded = some old
  /-- Nothing else does. -/
  unruled : item.answer.name = none → resolution.superseded = none

theorem Outcome.exists_replacement {e : Engine δ α} {rules : RuleTable} {cache : Cache}
    {row : IdRow} {now : Int} {found : Found} {request : Request} {m m' : Mint α} {item : Item}
    {sid : Sid} {old id : UnixId} (h : Outcome e rules cache now found request m item m')
    (hkeyed : cache.Keyed) (hrow : row ∈ cache.ids) (hstale : row.IsStale sid old now)
    (hpositive : 1 ≤ e.settings.idTtl) (hfits : e.settings.idTtl ≤ 0x7FFFFFFFFFFFFFFF)
    (hsid : request.id = .sid sid) (hordinary : WellKnown.idOf sid request.wanted = none)
    (hok : item.answer.isSuccess = true) (hid : item.answer.id = some (.unix id))
    (hminted : isEphemeral id.number = false) :
    ∃ resolution, Replacement now request item sid old id resolution := by
  cases h with
  | failed hfailed | exhausted hfailed _ =>
      rw [hfailed] at hok
      cases hok
  | reserved hsid' hreserved =>
      obtain rfl := Identity.sid.inj (hsid.symm.trans hsid')
      rw [hordinary] at hreserved
      cases hreserved
  | cached hsid' hhit _ =>
      obtain rfl := Identity.sid.inj (hsid.symm.trans hsid')
      obtain ⟨hit, hfound, hold, -⟩ := hkeyed.idOf_of_isStale hrow hstale request.wanted
      rw [hhit] at hfound
      cases hfound
      cases hid
      exact absurd hold (hstale.ne_of_not_minted hminted)
  | ruled hsid' _ hspare _ hmapped =>
      obtain rfl := Identity.sid.inj (hsid.symm.trans hsid')
      exact ⟨_, hsid, hok, hid, hminted, rfl, Rule.isToUnix_of_mapToUnix hmapped,
        Expiry.isLive_after_iff hpositive hfits,
        fun _ => hspare.eq_of_isStale hkeyed hrow hstale, fun hname => (by cases hname)⟩
  | localAccount _ _ _ _ =>
      exact ⟨_, hsid, hok, hid, hminted, rfl, rfl, Expiry.isLive_never_iff,
        fun hname => absurd rfl hname, fun _ => rfl⟩
  | minted _ _ _ _ =>
      exact ⟨_, hsid, hok, hid, hminted, rfl, rfl, Expiry.isLive_after_iff hpositive hfits,
        fun hname => absurd rfl hname, fun _ => rfl⟩

namespace Replacement

variable {settings : Settings} {cache : Cache} {row : IdRow} {now : Int} {request : Request}
  {item : Item} {resolution : Resolution} {sid : Sid} {old id : UnixId}

theorem written (h : Replacement now request item sid old id resolution) :
    written? request item
      = some (resolution.mapping sid id item.answer.name item.answer.direction) :=
  written?_of_resolved h.resolved h.asked h.answered h.success

/-- The SID leads to the id that was worked out. -/
theorem idOf_record (h : Replacement now request item sid old id resolution)
    (hkeyed : cache.Keyed) {wanted : Wanted} (hwanted : wanted.admits id.kind = true) :
    (∃ hit, (record settings now request item cache).idOf sid wanted now = .ok hit ∧ hit.id = id) ↔
      now < maxTime := by
  let w := resolution.mapping sid id item.answer.name item.answer.direction
  have hroom : (makeRoom item w cache).Keyed := by
    unfold makeRoom
    split
    · exact hkeyed.supersede _ _
    · exact hkeyed
  have hread : (record settings now request item cache).idOf sid wanted now
      = w.idFound wanted now := by
    rw [Cache.idOf_congr_ids (ids_record cache h.written)]
    exact hroom.idOf_putId_own h.toUnix wanted now
  have hcheck : (w.cachedId now).check wanted = .ok () := Wanted.check_of_admits hwanted _
  have hfresh : (w.cachedId now).expired = false := by
    show IdRow.isExpired id.number _ now = false
    rw [IdRow.isExpired, h.notMinted, Bool.false_and, Bool.false_and]
  have husable : w.isUsable now = isLive (some resolution.expiry.column) now := by
    show (isEphemeral id.number || _) = _
    rw [h.notMinted, Bool.false_or]
    rfl
  rw [hread, IdMapping.idFound, husable, ← h.live, hfresh, hcheck]
  by_cases hlive : isLive (some resolution.expiry.column) now = true
  · rw [if_pos hlive]
    exact ⟨fun _ => hlive, fun _ => ⟨_, rfl, rfl⟩⟩
  · rw [if_neg hlive]
    constructor
    · rintro ⟨hit, hhit, -⟩
      cases hhit
    · exact fun hcontra => absurd hcontra hlive

/-- The old id leads back to its SID after a rule has replaced it. -/
theorem sidOf_record_of_ruled (h : Replacement now request item sid old id resolution)
    (hkeyed : cache.Keyed) (hrow : row ∈ cache.ids) (hstale : row.IsStale sid old now)
    (hback : row.toWindows = some 1) (hruled : item.answer.name ≠ none) (time : Int) :
    (record settings now request item cache).sidOf old time = .ok
      { sid, direction := .toWindows
        windowsName := row.windowsName, windowsDomain := row.windowsDomain } := by
  let w := resolution.mapping sid id item.answer.name item.answer.direction
  have hroom : makeRoom item w cache = cache.supersede sid old.kind := by
    have hspared : spared? item w = some old.kind := by
      simp only [spared?, h.resolved, h.ruled hruled]
      show (if isEphemeral id.number = true then none else _) = _
      rw [h.notMinted]
      rfl
    rw [makeRoom, hspared]
    rfl
  let kept : IdRow := { row with toUnix := none }
  have hkept : kept ∈ (cache.supersede sid old.kind).ids := by
    refine Cache.mem_supersede.mpr ⟨row, hrow, ?_⟩
    rw [if_pos ((Cache.supersedes_iff hstale.ties hstale.toUnix hstale.isEphemeral).mpr rfl)]
  have hties : kept.Ties sid old := hstale.ties.clearToUnix
  -- A row that does not lead from the SID is not in the way of the new one.
  have hmem : kept ∈ ((cache.supersede sid old.kind).putId w).ids :=
    Cache.mem_putId_of_ties hkept hties (fun hset => (by cases hset))
      (hstale.ne_of_not_minted h.notMinted)
  have hanswers : kept.answersId old time = true :=
    IdRow.answersId_iff.mpr ⟨hback, hties.number, hties.isUser, hstale.isUsable time⟩
  rw [Cache.sidOf_congr_ids ((ids_record cache h.written).trans (by rw [hroom]))]
  exact ((hkeyed.supersede sid old.kind).putId w).sidOf_eq hmem hties hanswers

/-- The old id leads nowhere after anything else has replaced it. -/
theorem sidOf_record_of_unruled (h : Replacement now request item sid old id resolution)
    (hkeyed : cache.Keyed) (hrow : row ∈ cache.ids) (hstale : row.IsStale sid old now)
    (hback : row.toWindows = some 1) (hunruled : item.answer.name = none) (time : Int) :
    (record settings now request item cache).sidOf old time = .error .notFound := by
  let w := resolution.mapping sid id item.answer.name item.answer.direction
  have hroom : makeRoom item w cache = cache := by
    have hspared : spared? item w = none := by
      simp only [spared?, h.resolved, h.unruled hunruled, Option.map_none, ite_self]
    rw [makeRoom, hspared]
  have hother : ¬ (w.direction.isToWindows = true ∧ old = w.id) :=
    fun hsame => hstale.ne_of_not_minted h.notMinted hsame.2.symm
  rw [Cache.sidOf_congr_ids ((ids_record cache h.written).trans (by rw [hroom]))]
  exact Cache.sidOf_of_none (hkeyed.sidRow?_putId_lost hother h.toUnix
    ⟨row, hrow, hstale.ties, hstale.toUnix, hback, hstale.isUsable time⟩)

end Replacement
end SidToId

/--
**A minted id keeps its way back if a rule takes its place, and only then.**

A row leads from a SID to a minted id and back, and is past its time.  If a request for the SID
comes to an id that was not minted, the SID leads to that id at once, as long as the clock has
not run out.  An answer with a unix name is a rule's, and then the old id still leads back to the
SID, at any time.  Any other, such as that of a local account, takes the way back from it.
-/
theorem stale_id_replaced (e : Engine δ α) (now : Int) (s : EngineState δ α) (hs : s.Reachable)
    (hpositive : 1 ≤ e.settings.idTtl) (hfits : e.settings.idTtl ≤ 0x7FFFFFFFFFFFFFFF)
    {row : IdRow} (hrow : row ∈ s.cache.ids) {sid : Sid} {old : UnixId}
    (hstale : row.IsStale sid old now) (hback : row.toWindows = some 1) (request : Request)
    (hsid : request.id = .sid sid) (hordinary : WellKnown.idOf sid request.wanted = none)
    {answer : Answer} (hanswer : (e.mapSids now [request] s).1 = [answer])
    (hok : answer.isSuccess = true) {id : UnixId} (hid : answer.id = some (.unix id))
    (hminted : isEphemeral id.number = false) :
    let cache := (e.mapSids now [request] s).2.cache
    (∀ wanted : Wanted, wanted.admits id.kind = true →
      ((∃ hit, cache.idOf sid wanted now = .ok hit ∧ hit.id = id) ↔ now < maxTime)) ∧
    (answer.name ≠ none → ∀ time, cache.sidOf old time = .ok
      { sid, direction := .toWindows
        windowsName := row.windowsName, windowsDomain := row.windowsDomain }) ∧
    (answer.name = none → ∀ time, cache.sidOf old time = .error .notFound) := by
  intro cache
  have hkeyed : s.cache.Keyed := hs.keyed
  have hreply : ({ asked := request.id, answer } : Reply) ∈
      replies [request] (e.mapSids now [request] s).1 := by
    rw [hanswer]
    exact List.mem_cons_self ..
  obtain ⟨item, found, m, m', houtcome, hitem, hcache⟩ := exists_outcome_of_mem_mapSids hreply
  obtain rfl : answer = item.answer := (Reply.mk.inj hitem).2
  obtain ⟨resolution, hreplaced⟩ := houtcome.exists_replacement hkeyed hrow hstale hpositive hfits
    hsid hordinary hok hid hminted
  simp only [cache, hcache]
  refine ⟨fun wanted hwanted => ?_, fun hruled time => ?_, fun hunruled time => ?_⟩
  · exact hreplaced.idOf_record hkeyed hwanted
  · exact hreplaced.sidOf_record_of_ruled hkeyed hrow hstale hback hruled time
  · exact hreplaced.sidOf_record_of_unruled hkeyed hrow hstale hback hunruled time

/-- The mapping of a SID to a minted uid, until the time. -/
def mintedUntil (sid : Sid) (number : UInt32) (time : Int) : IdMapping :=
  { sid, windowsDomain := none, windowsName := none, id := { kind := .uid, number }
    unixName := none, direction := .both, expiry := .at time }

/-- Alice had a minted uid before there was a rule for her, and files of hers still have it. -/
theorem stale_id_replaced_by_rule :
    let old : UnixId := { kind := .uid, number := 0x80000001 }
    let s : EngineState Directory.Fixed.State SequentialIds :=
      { cache := Cache.putId {} (mintedUntil Corp.alice.sid old.number 600)
        rules := { rules := [Corp.rule "alice" "bob" (some 2) (some 2)] }
        directory := {}, allocator := { authority := .aboveReserved } }
    let cache := (Corp.engine.mapSids 1000 [posixRequest Corp.alice.sid] s).2.cache
    (∃ hit, cache.idOf Corp.alice.sid .uid 1000 = .ok hit ∧ hit.id = Corp.bob) ∧
      ∀ time, cache.sidOf old time = .ok
        { sid := Corp.alice.sid, direction := .toWindows
          windowsName := none, windowsDomain := none } := by
  intro old s cache
  have hs : s.Reachable := (EngineState.Reachable.start
    { rules := [Corp.rule "alice" "bob" (some 2) (some 2)] } ({} : Directory.Fixed.State)
    { authority := SequentialIds.aboveReserved }).putId (mintedUntil Corp.alice.sid old.number 600)
  have hrow : (mintedUntil Corp.alice.sid old.number 600).row ∈ s.cache.ids := by decide +kernel
  have hstale : (mintedUntil Corp.alice.sid old.number 600).row.IsStale Corp.alice.sid old 1000 :=
    ⟨IdMapping.row_ties _, rfl, by decide +kernel⟩
  have hanswer : (Corp.engine.mapSids 1000 [posixRequest Corp.alice.sid] s).1
      = [{ id := some (.unix Corp.bob), failure := none, name := some "bob"
           domain := some "CORP" }] := by
    decide +kernel
  obtain ⟨hleads, hruled, -⟩ := stale_id_replaced Corp.engine 1000 s hs (by decide) (by decide)
    hrow hstale rfl (posixRequest Corp.alice.sid) rfl (by decide +kernel) hanswer rfl rfl
    (by decide)
  exact ⟨(hleads .uid rfl).mpr (by decide), hruled (by decide)⟩

/-- A SID of this host was given a minted uid under a name that came with the request.  Later it
is asked for without a name and comes to its local account, and the minted uid has no SID any
more. -/
theorem stale_id_lost_to_local_account :
    let e : Engine Unit SequentialIds :=
      { Engine.bare with settings := { machineSid := some "S-1-5-21-7" } }
    let sid : Sid := { base := "S-1-5-21-7", rid := 2001 }
    let old : UnixId := { kind := .uid, number := 0x80000001 }
    let named : Request := { id := .sid sid, wanted := .uid, name := some "bob"
                             domain := some "CORP" }
    let s : EngineState Unit SequentialIds := (e.mapSids 0 [named] (.fresh {} () .aboveReserved)).2
    let request : Request := { id := .sid sid, wanted := .uid }
    s.Reachable ∧
      (∃ row ∈ s.cache.ids, row.IsStale sid old 1000 ∧ row.toWindows = some 1) ∧
      (e.mapSids 1000 [request] s).1
        = [{ id := some (.unix { kind := .uid, number := 1001 }), failure := none }] ∧
      (e.mapSids 1000 [request] s).2.cache.sidOf old 1000 = .error .notFound := by
  intro e sid old named s request
  have hs : s.Reachable := (EngineState.Reachable.start {} ()
    { authority := SequentialIds.aboveReserved }).mapSids e 0 [named]
  let minted : IdMapping :=
    { sid, windowsDomain := some "CORP", windowsName := some "bob", id := old
      unixName := none, direction := .both, expiry := .at 600 }
  refine ⟨hs, ⟨minted.row, ?_, ⟨minted.row_ties, rfl, ?_⟩, rfl⟩, ?_, ?_⟩ <;> decide +kernel

/-! ### The same id again -/

/-- Nobody but the directory can say who the SID is: it is not reserved, it does not stand for
an account of this host, and the cache has no name for it. -/
structure Settings.IsForeign (settings : Settings) (cache : Cache) (sid : Sid) (now : Int) :
    Prop where
  notReserved : WellKnown.ofSid sid = none
  notOwn : ¬ settings.IsOwn sid
  unnamed : cache.nameOf sid now = .error .notFound

theorem LocalAccount.decode_of_not_isOwn {settings : Settings} {sid : Sid}
    (h : ¬ settings.IsOwn sid) (hmachine : settings.machine?.any sid.hasBase = true)
    (wanted : Wanted) : decode sid wanted = .error .notFound := by
  have hrid : ofRid? sid.rid = none := by
    cases hfound : ofRid? sid.rid with
    | none => rfl
    | some id => exact absurd ⟨hmachine, uidBase_le_of_ofRid? hfound⟩ h
  rw [decode, hrid]

namespace SidToId

variable {e : Engine δ α} {cache : Cache} {now : Int} {request : Request} {sid : Sid}
  {id : UnixId} {m : Mint α}

/-- What an item is renewed with. -/
def renewedItem (e : Engine δ α) (now : Int) (id : UnixId) : Item :=
  mintedItem e now id none .machine none

/-- A SID that nobody knows gets the id that it is reminded of, if it is of the kind that an
unknown SID is taken for. -/
theorem settleUnknown_renews (hown : ¬ e.settings.IsOwn sid) (hmint : e.settings.mintUnknown = true)
    (hkind : request.wanted.defaultKind = id.kind) :
    settleUnknown e now request sid .notFound (some id) m
      = (renewedItem e now id, m.reuse sid id) := by
  have hunknown : mintItem e now sid id.kind .machine none (some id)
      (.nobody id.kind .notFound) m = (renewedItem e now id, m.reuse sid id) := by
    simp only [mintItem, obtainId, if_pos]
    rfl
  unfold settleUnknown
  simp only [hkind, hmint, ne_eq, not_true_eq_false, Bool.not_true, Bool.false_eq_true, or_self,
    if_false, hunknown]
  by_cases hmachine : e.settings.machine?.any sid.hasBase = true
  · simp only [if_pos hmachine, LocalAccount.decode_of_not_isOwn hown hmachine]
  · simp only [if_neg hmachine]

/-- What the passes make of an item whose SID nobody knows, and that is reminded of an id. -/
theorem secondPass_renews {rules : RuleTable} {found : Found} {row : IdRow} (hkeyed : cache.Keyed)
    (hrow : row ∈ cache.ids) (hstale : row.IsStale sid id now)
    (hforeign : e.settings.IsForeign cache sid now) (hmint : e.settings.mintUnknown = true)
    (hsid : request.id = .sid sid) (hfree : request.cacheOnly = false)
    (hname : request.givenName? = none) (hadmits : request.wanted.admits id.kind = true)
    (hkind : request.wanted.defaultKind = id.kind)
    (hsaid : answerFor found request = some (.error .notFound)) :
    secondPass e rules now request (firstPass cache now request) (answerFor found request) m
      = (renewedItem e now id, m.reuse sid id) := by
  obtain ⟨hit, hhit, -, hexpired⟩ := hkeyed.idOf_of_isStale hrow hstale request.wanted
  have hneeds : NeedsName cache now request sid :=
    { asked := hsid
      wanted := fun hcontra => by rw [hcontra] at hadmits; cases hadmits
      unflagged := Bool.or_eq_false_iff.mp hfree
      notReserved := ⟨WellKnown.idOf_of_ordinary hforeign.notReserved _, hforeign.notReserved⟩
      uncached := ⟨_, .expired hhit hexpired⟩
      untrusted := Or.inl hname
      unnamed := hforeign.unnamed }
  obtain ⟨fallback, hspare, hfirst⟩ := firstPass_of_needsName hneeds
  obtain rfl := hspare.eq_of_isStale hkeyed hrow hstale
  rw [hfirst, hsaid]
  simp only [secondPass, hsid]
  exact settleUnknown_renews hforeign.notOwn hmint hkind

end SidToId

/-- The allocator of a batch when it is the turn of the item in this place. -/
def allocatorAt (e : Engine δ α) (now : Int) (requests : List Request) (s : EngineState δ α)
    (place : Nat) : Allocator α :=
  (settled e s.rules s.cache now (batchFound e now requests s).1 (requests.take place)
    { allocator := s.allocator }).2.allocator

theorem allocatorAt_zero (e : Engine δ α) (now : Int) (requests : List Request)
    (s : EngineState δ α) : allocatorAt e now requests s 0 = s.allocator :=
  rfl

theorem allocatorAt_length (e : Engine δ α) (now : Int) (requests : List Request)
    (s : EngineState δ α) :
    allocatorAt e now requests s requests.length = (e.mapSids now requests s).2.allocator := by
  rw [allocatorAt, List.take_length, mapSids_eq]

/-- The item between the first ones and the rest is answered with this id, which was not minted
for it; and if it comes last, the SID leads to the id for another time to live. -/
structure Renewed (e : Engine δ α) (now : Int) (s : EngineState δ α) (first : List Request)
    (request : Request) (rest : List Request) (sid : Sid) (id : UnixId) : Prop where
  answered : (e.mapSids now (first ++ request :: rest) s).1[first.length]?
    = some { id := some (.unix id), direction := .both, failure := none }
  notMinted : allocatorAt e now (first ++ request :: rest) s (first.length + 1)
    = allocatorAt e now (first ++ request :: rest) s first.length
  written : rest = [] → ∃ row : IdRow, row.Ties sid id ∧
    (∀ time, (e.mapSids now (first ++ request :: rest) s).2.cache.idRow? sid time = some row) ∧
    (e.settings.idTtl ≤ 0x7FFFFFFFFFFFFFFF → minTime ≤ now →
      row.expiration = some (min maxTime (now + e.settings.idTtl)))

/-- A call for one SID that is renewed leaves the allocator as it was. -/
theorem Renewed.allocator_eq {e : Engine δ α} {now : Int} {s : EngineState δ α} {request : Request}
    {sid : Sid} {id : UnixId} (h : Renewed e now s [] request [] sid id) :
    (e.mapSids now [request] s).2.allocator = s.allocator := by
  have hlast : allocatorAt e now [request] s 1 = allocatorAt e now [request] s 0 := h.notMinted
  rw [← allocatorAt_length, ← allocatorAt_zero e now [request] s]
  exact hlast

section Renewal

variable {e : Engine δ α} {now : Int} {s : EngineState δ α} {first rest : List Request}
  {request : Request} {sid : Sid} {id : UnixId}

/-- The row that is written last for the SID is the one that its id is found in from then on. -/
theorem idRow?_of_renewed (hkeyed : (e.mapSids now (first ++ [request]) s).2.cache.Keyed)
    (hsid : request.id = .sid sid) (heph : isEphemeral id.number = true)
    (hitem : (SidToId.secondPass e s.rules now request (SidToId.firstPass s.cache now request)
      (SidToId.answerFor (batchFound e now (first ++ [request]) s).1 request)
      (settled e s.rules s.cache now (batchFound e now (first ++ [request]) s).1 first
        { allocator := s.allocator }).2).1 = SidToId.renewedItem e now id) :
    ∃ row : IdRow, row.Ties sid id ∧
      (∀ time, (e.mapSids now (first ++ [request]) s).2.cache.idRow? sid time = some row) ∧
      row.expiration = some (e.settings.idExpiry now).column := by
  let resolution : Resolution :=
    { source := .machine, windowsName := none, superseded := none
      expiry := e.settings.idExpiry now }
  let w : IdMapping := resolution.mapping sid id none .both
  have hw : SidToId.written? request (SidToId.renewedItem e now id) = some w :=
    SidToId.written?_of_resolved rfl hsid rfl rfl
  have hmem : w.row ∈ (e.mapSids now (first ++ [request]) s).2.cache.ids := by
    rw [mapSids_eq, SidToId.settled_concat, hitem]
    simp only [List.zip_append length_settled.symm, List.zip_cons_cons, List.zip_nil_left,
      recordAll_concat]
    exact (SidToId.wrote_record e.settings now _ hw).written
  have husable : ∀ time, w.isUsable time = true := by
    intro time
    show (isEphemeral id.number || _) = true
    rw [heph, Bool.true_or]
  have hanswers : ∀ time, w.row.answersSid sid time = true := fun time =>
    IdMapping.answersSid_row_iff.mpr ⟨rfl, rfl, husable time⟩
  exact ⟨w.row, w.row_ties, fun time => hkeyed.idRow?_eq hmem (hanswers time), rfl⟩

end Renewal

/--
**A minted id that is past its time is given again before another one is minted.**

A row leads from a SID to a minted id and is past its time; the directory does not know the SID,
and nobody else does; and unknown SIDs get ids.  Then a request for the SID, wherever it stands in
a batch, is answered with that id, and the allocator is the same before and after it, if the id is
of the kind that the request takes an unknown SID for: a group's id for a request for a gid, and
a user's id for any other.  If the request comes last, the row it leaves is in force from now on
for the time to live.
-/
theorem stale_id_renewed (e : Engine δ α) (now : Int) (s : EngineState δ α) (hs : s.Reachable)
    {row : IdRow} (hrow : row ∈ s.cache.ids) {sid : Sid} {id : UnixId}
    (hstale : row.IsStale sid id now) (hforeign : e.settings.IsForeign s.cache sid now)
    (hmint : e.settings.mintUnknown = true) (request : Request) (hsid : request.id = .sid sid)
    (hfree : request.cacheOnly = false) (hname : request.givenName? = none)
    (hadmits : request.wanted.admits id.kind = true)
    (hkind : request.wanted.defaultKind = id.kind) (first rest : List Request)
    (hsaid : SidToId.answerFor (batchFound e now (first ++ request :: rest) s).1 request
      = some (.error .notFound)) :
    Renewed e now s first request rest sid id := by
  have hsecond : ∀ m, SidToId.secondPass e s.rules now request
      (SidToId.firstPass s.cache now request)
      (SidToId.answerFor (batchFound e now (first ++ request :: rest) s).1 request) m
        = (SidToId.renewedItem e now id, m.reuse sid id) := fun m =>
    SidToId.secondPass_renews hs.keyed hrow hstale hforeign hmint hsid hfree hname hadmits hkind
      hsaid
  have hbefore : (first ++ request :: rest).take first.length = first := List.take_left
  have hafter : (first ++ request :: rest).take (first.length + 1) = first ++ [request] :=
    List.take_length_add_append 1
  refine ⟨?_, ?_, ?_⟩
  · rw [mapSids_eq]
    simp only [List.getElem?_map]
    rw [SidToId.getElem?_settled, hsecond]
    rfl
  · rw [allocatorAt, allocatorAt, hbefore, hafter, SidToId.settled_concat, hsecond]
    rfl
  · rintro rfl
    have hkeyed : (e.mapSids now (first ++ [request]) s).2.cache.Keyed :=
      (hs.mapSids e now (first ++ [request])).keyed
    obtain ⟨row', hties, hfound, hexpiration⟩ :=
      idRow?_of_renewed hkeyed hsid hstale.isEphemeral (congrArg Prod.fst (hsecond _))
    refine ⟨row', hties, hfound, fun hfits hnow => ?_⟩
    have hclamped : clampTime (now + e.settings.idTtl) = min maxTime (now + e.settings.idTtl) := by
      unfold clampTime minTime maxTime
      unfold minTime at hnow
      omega
    rw [hexpiration, Settings.idExpiry, Expiry.column_after now hfits, hclamped]

/-- After ten minutes a foreign SID is asked for again, behind another one that is new. -/
theorem stale_id_renewed_behind_new_sid :
    let sid : Sid := { base := "S-1-5-21-9", rid := 1104 }
    let old : UnixId := { kind := .uid, number := 0x80000001 }
    let s : EngineState Unit SequentialIds :=
      { cache := Cache.putId {} (mintedUntil sid old.number 600), rules := {}, directory := ()
        allocator := { authority := .aboveReserved } }
    let other : Request := posixRequest { base := "S-1-5-21-9", rid := 1105 }
    Renewed Engine.bare 1000 s [other] { id := .sid sid, wanted := .uid } [] sid old := by
  intro sid old s other
  have hs : s.Reachable := (EngineState.Reachable.start {} ()
    { authority := SequentialIds.aboveReserved }).putId (mintedUntil sid old.number 600)
  have hrow : (mintedUntil sid old.number 600).row ∈ s.cache.ids := by decide +kernel
  have hstale : (mintedUntil sid old.number 600).row.IsStale sid old 1000 :=
    ⟨IdMapping.row_ties _, rfl, by decide +kernel⟩
  have hforeign : (Engine.bare : Engine Unit SequentialIds).settings.IsForeign s.cache sid 1000 :=
    ⟨by decide +kernel, fun hown => (by cases hown.1), by decide +kernel⟩
  exact stale_id_renewed Engine.bare 1000 s hs hrow hstale hforeign rfl
    { id := .sid sid, wanted := .uid } rfl rfl rfl rfl rfl [other] [] (by decide +kernel)

/-- An unknown SID that is asked for as whatever it may be is taken for a user.  So the expired
gid of a foreign SID is passed over for a new uid.  And an expired uid is passed over for another
one if a rule has replaced it meanwhile, because its row does not lead from the SID any more. -/
theorem stale_id_not_renewed :
    let sid : Sid := { base := "S-1-5-21-7", rid := 1104 }
    let uid (number : UInt32) : UnixId := { kind := .uid, number }
    let gid : UnixId := { kind := .gid, number := 0x80000002 }
    let group : Request := { id := .sid sid, wanted := .gid }
    let user : Request := { id := .sid sid, wanted := .uid }
    let bare : Engine Unit SequentialIds := Engine.bare
    let s : EngineState Unit SequentialIds :=
      (bare.mapSids 0 [group] (.fresh {} () .aboveReserved)).2
    let ruled : Engine Unit SequentialIds :=
      { bare with
        settings := { mappingDomain := some "CORP" }
        names := .ofTables { entries := [("bob", 1001)] } {} }
    let alice : Request := { user with name := some "alice", domain := some "CORP" }
    let s₁ : EngineState Unit SequentialIds :=
      (ruled.mapSids 0 [user]
        (.fresh { rules := [Corp.rule "alice" "bob" (some 2) none] } () .aboveReserved)).2
    let s₂ : EngineState Unit SequentialIds := (ruled.mapSids 1000 [alice] s₁).2
    (s.Reachable ∧ (∃ row ∈ s.cache.ids, row.IsStale sid gid 1000) ∧
      bare.settings.IsForeign s.cache sid 1000 ∧
      SidToId.answerFor (batchFound bare 1000 [posixRequest sid] s).1 (posixRequest sid)
        = some (.error .notFound) ∧
      (bare.mapSids 1000 [posixRequest sid] s).1
        = [{ id := some (.unix (uid 0x80000001)), failure := none }]) ∧
    (s₂.Reachable ∧ (∃ row ∈ s₂.cache.ids, row.Ties sid (uid 0x80000001) ∧
        IdRow.isExpired 0x80000001 row.expiration 2000 = true) ∧
      ruled.settings.IsForeign s₂.cache sid 2000 ∧
      SidToId.answerFor (batchFound ruled 2000 [user] s₂).1 user = some (.error .notFound) ∧
      (ruled.mapSids 2000 [user] s₂).1
        = [{ id := some (.unix (uid 0x80000002)), failure := none }]) := by
  intro sid uid gid group user bare s ruled alice s₁ s₂
  have hs : s.Reachable := (EngineState.Reachable.start {} ()
    { authority := SequentialIds.aboveReserved }).mapSids bare 0 [group]
  have hs₁ : s₁.Reachable := (EngineState.Reachable.start
    { rules := [Corp.rule "alice" "bob" (some 2) none] } ()
    { authority := SequentialIds.aboveReserved }).mapSids ruled 0 [user]
  have hs₂ : s₂.Reachable := hs₁.mapSids ruled 1000 [alice]
  let ofGroup : IdMapping := { mintedUntil sid 0 600 with id := gid }
  let ofUser : IdMapping := mintedUntil sid 0x80000001 600
  refine ⟨⟨hs, ⟨ofGroup.row, by decide +kernel, ofGroup.row_ties, rfl, by decide +kernel⟩,
    ⟨by decide +kernel, fun hown => (by cases hown.1), by decide +kernel⟩, by decide +kernel,
    by decide +kernel⟩, ⟨hs₂, ⟨{ ofUser.row with toUnix := none }, by decide +kernel,
    ofUser.row_ties.clearToUnix, by decide +kernel⟩,
    ⟨by decide +kernel, fun hown => (by cases hown.1), by decide +kernel⟩, by decide +kernel,
    by decide +kernel⟩⟩

end IdentityMap

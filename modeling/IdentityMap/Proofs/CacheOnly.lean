/-
Requests that the reserved identities and the cache decide.

What they decide is idle from then on: nothing is looked up for it, no rule is applied, no id
is taken and nothing is written.  Its answer depends on the cache and the time, whatever engine
is asked.  And the items around it do not see it, so that it can be taken out of a batch with
its answer, and everything else stays.

A request with one of the two switches is always decided in this way.  Any other is decided, or
it is left open, and then neither a reserved identity nor the cache has anything against it.
-/
import Mathlib.Data.List.InsertIdx
import IdentityMap.Proofs.OneRound

namespace IdentityMap

variable {δ α : Type}

/-- Nothing is left to do for the item, and nothing is to be written. -/
def ItemState.isIdle : ItemState → Bool
  | .cacheHit | .failed _ => true
  | .start | .awaitsDirectory _ | .awaitsRules _ _ _ | .resolved _ => false

theorem ItemState.isFinal_of_isIdle {state : ItemState} (h : state.isIdle = true) :
    state.isFinal = true := by
  cases state <;> first | rfl | cases h

/-! ### From a SID -/

namespace SidToId

variable {cache : Cache} {now : Int} {request : Request} {sid : Sid} {item : Item}

theorem isIdle_cacheAnswer (request : Request) (hit : CachedId) :
    (cacheAnswer request hit).state.isIdle = true := by
  unfold cacheAnswer
  cases hit.check request.wanted <;> rfl

/-- With a switch the cache decides, be it by a stale id or by a row that cannot be read. -/
theorem isIdle_searchCache (h : request.cacheOnly = true) (cache : Cache) (now : Int)
    (sid : Sid) : (searchCache cache now request sid).state.isIdle = true := by
  unfold searchCache
  split
  · rw [h, Bool.or_true, if_pos rfl]
    exact isIdle_cacheAnswer request _
  · rw [if_pos h]
    rfl
  · rfl

theorem isIdle_firstPass (h : request.cacheOnly = true) (cache : Cache) (now : Int) :
    (firstPass cache now request).state.isIdle = true := by
  unfold firstPass
  split
  · rfl
  · split
    · rfl
    · split
      · rfl
      · rfl
      · exact isIdle_searchCache h cache now _

/-- The search for a name gives up, or it goes on in the second pass. -/
theorem isIdle_or_open_findName (cache : Cache) (now : Int) (request : Request) (sid : Sid)
    (fallback : Fallback) :
    (findName cache now request sid fallback).state.isIdle = true ∨
      (findName cache now request sid fallback).state.isFinal = false := by
  unfold findName
  split
  · exact Or.inr rfl
  · split
    · exact Or.inr rfl
    · split
      · exact Or.inr rfl
      · exact Or.inr rfl
      · exact Or.inl rfl

theorem isIdle_or_open_searchCache (cache : Cache) (now : Int) (request : Request) (sid : Sid) :
    (searchCache cache now request sid).state.isIdle = true ∨
      (searchCache cache now request sid).state.isFinal = false := by
  unfold searchCache
  split
  · split
    · exact Or.inl (isIdle_cacheAnswer request _)
    · exact isIdle_or_open_findName ..
  · split
    · exact Or.inl rfl
    · exact isIdle_or_open_findName ..
  · exact Or.inl rfl

/-- The first pass decides, or it leaves to the second a SID that is not reserved. -/
theorem isIdle_or_open_firstPass (cache : Cache) (now : Int) (request : Request) :
    (firstPass cache now request).state.isIdle = true ∨
      ((firstPass cache now request).state.isFinal = false ∧
        ∃ sid, request.id = .sid sid ∧ WellKnown.idOf sid request.wanted = none) := by
  unfold firstPass
  cases request.id with
  | unix id => exact Or.inl rfl
  | sid sid =>
      simp only
      split
      · exact Or.inl rfl
      · split
        · exact Or.inl rfl
        · exact Or.inl rfl
        · next hreserved =>
            exact (isIdle_or_open_searchCache cache now request sid).imp_right
              fun hopen => ⟨hopen, sid, rfl, hreserved⟩

/-- Nothing is written for an idle item. -/
theorem record_of_isIdle {settings : Settings} (h : item.state.isIdle = true) :
    record settings now request item cache = cache := by
  unfold record
  split
  · next hstate _ _ =>
      rw [hstate] at h
      cases h
  · rfl

end SidToId

/-! ### A batch without one of its items -/

section Batch

open SidToId

variable {cache : Cache} {now : Int} {requests : List Request} {request : Request} {i : Nat}

/-- A member that a filter drops may be left out before. -/
theorem filterMap_eraseIdx_of_none {β γ : Type} {f : β → Option γ} {l : List β} {x : β}
    (hi : l[i]? = some x) (hx : f x = none) : (l.eraseIdx i).filterMap f = l.filterMap f := by
  induction l generalizing i with
  | nil => rfl
  | cons first rest ih =>
      cases i with
      | zero =>
          cases hi
          rw [List.eraseIdx_cons_zero, List.filterMap_cons_none hx]
      | succ i => rw [List.eraseIdx_cons_succ, List.filterMap_cons, List.filterMap_cons, ih hi]

/-- The directory is not asked about an idle item, nor anything else because of it. -/
theorem batchFound_eraseIdx (e : Engine δ α) {s : EngineState δ α} (hi : requests[i]? = some request)
    (h : (firstPass s.cache now request).state.isIdle = true) :
    batchFound e now (requests.eraseIdx i) s = batchFound e now requests s := by
  have hnone : awaitedSid? request (firstPass s.cache now request) = none :=
    awaitedSid?_of_isFinal (ItemState.isFinal_of_isIdle h)
  have hsids : awaitedSids (requests.eraseIdx i)
        ((requests.eraseIdx i).map (firstPass s.cache now))
      = awaitedSids requests (requests.map (firstPass s.cache now)) := by
    simp only [awaitedSids, ← List.map_prod_left_eq_zip, List.filterMap_map]
    rw [filterMap_eraseIdx_of_none hi hnone]
  simp only [batchFound, directoryRound, hsids]

/-- The items after an idle one go on as if it were not there. -/
theorem settled_eraseIdx (e : Engine δ α) (rules : RuleTable) (found : Found)
    (hi : requests[i]? = some request) (h : (firstPass cache now request).state.isIdle = true)
    (m : Mint α) :
    (settled e rules cache now found requests m).1[i]? = some (firstPass cache now request) ∧
      settled e rules cache now found (requests.eraseIdx i) m
        = ((settled e rules cache now found requests m).1.eraseIdx i,
            (settled e rules cache now found requests m).2) := by
  induction requests generalizing i m with
  | nil => cases hi
  | cons first rest ih =>
      cases i with
      | zero =>
          cases hi
          have hitem : secondPass e rules now request (firstPass cache now request)
              (answerFor found request) m = (firstPass cache now request, m) :=
            secondPass_of_isFinal (ItemState.isFinal_of_isIdle h)
          simp only [settled, List.map_cons, secondPasses, hitem]
          exact ⟨rfl, rfl⟩
      | succ i =>
          obtain ⟨hat, herased⟩ := ih hi (secondPass e rules now first
            (firstPass cache now first) (answerFor found first) m).2
          refine ⟨hat, ?_⟩
          simp only [settled, List.map_cons, secondPasses, List.eraseIdx_cons_succ] at herased ⊢
          rw [herased]

/-- What is written for a batch is written without its idle items. -/
theorem recordAll_eraseIdx {settings : Settings} {items : List Item} {item : Item}
    (hi : items[i]? = some item) (h : item.state.isIdle = true) (requests : List Request)
    (cache : Cache) :
    recordAll settings now ((requests.eraseIdx i).zip (items.eraseIdx i)) cache
      = recordAll settings now (requests.zip items) cache := by
  induction requests generalizing i items cache with
  | nil => rfl
  | cons first rest ih =>
      cases items with
      | nil => cases hi
      | cons other items =>
          cases i with
          | zero =>
              cases hi
              simp only [List.eraseIdx_cons_zero, List.zip_cons_cons, recordAll, List.foldl_cons,
                record_of_isIdle h]
          | succ i =>
              rw [List.getElem?_cons_succ] at hi
              exact ih hi _

/-- **An idle item can be taken out of a batch, with its answer, and everything else stays.** -/
theorem mapSids_eraseIdx (e : Engine δ α) (s : EngineState δ α)
    (h : (firstPass s.cache now request).state.isIdle = true) (hi : requests[i]? = some request) :
    (e.mapSids now requests s).1[i]? = some (firstPass s.cache now request).answer ∧
      e.mapSids now (requests.eraseIdx i) s
        = ((e.mapSids now requests s).1.eraseIdx i, (e.mapSids now requests s).2) := by
  obtain ⟨hat, herased⟩ := settled_eraseIdx e s.rules (batchFound e now requests s).1 hi h
    { allocator := s.allocator }
  rw [mapSids_eq, mapSids_eq, batchFound_eraseIdx e hi h, herased]
  simp only
  refine ⟨?_, ?_⟩
  · rw [List.getElem?_map, hat, Option.map_some]
  · rw [recordAll_eraseIdx hat h, List.eraseIdx_map]

/-- A single request that is decided leaves everything as it was. -/
theorem mapSids_of_isIdle (e : Engine δ α) (s : EngineState δ α)
    (h : (firstPass s.cache now request).state.isIdle = true) :
    e.mapSids now [request] s = ([(firstPass s.cache now request).answer], s) := by
  have hi : [request][0]? = some request := rfl
  obtain ⟨hat, hnothing⟩ := mapSids_eraseIdx e s h hi
  have hstate : s = (e.mapSids now [request] s).2 := congrArg Prod.snd hnothing
  obtain ⟨answer, hanswer⟩ : ∃ answer, (e.mapSids now [request] s).1 = [answer] :=
    List.length_eq_one_iff.mp length_mapSids
  rw [hanswer] at hat
  rw [← Option.some.inj hat]
  exact Prod.ext hanswer hstate.symm

end Batch

/-! ### From a unix id -/

namespace IdToSid

variable {cache : Cache} {now : Int} {request : Request} {id : UnixId} {item : Item}

/-- The request comes to this item, whatever engine is asked and whatever the rules are. -/
structure Decided (cache : Cache) (now : Int) (request : Request) (item : Item) : Prop where
  idle : item.state.isIdle = true
  resolve : ∀ {δ α : Type} (e : Engine δ α) (rules : RuleTable) (s : δ),
    resolve e cache rules now request s = (item, s)

/-- Neither the reserved identities nor the cache know the id, and nothing forbids to look
further. -/
structure LeftOpen (cache : Cache) (now : Int) (request : Request) (id : UnixId) : Prop where
  asked : request.id = .unix id
  wanted : request.wanted = .sid
  notReserved : WellKnown.ofId id = none
  uncached : cache.sidOf id now = .error .notFound
  notMinted : isEphemeral id.number = false
  unflagged : request.cacheOnly = false

theorem decided_of_reserved (hid : request.id = .unix id) (hwanted : request.wanted = .sid)
    {entry : WellKnown} (h : WellKnown.ofId id = some entry) :
    Decided cache now request
      { answer :=
          { id := some (.sid entry.sid), direction := entry.direction, failure := none,
            name := some entry.name }
        state := .cacheHit } where
  idle := rfl
  resolve e rules s := by simp [IdToSid.resolve, hid, hwanted, h]

theorem decided_of_sidOf (hid : request.id = .unix id) (hwanted : request.wanted = .sid)
    (hordinary : WellKnown.ofId id = none) {hit : CachedSid} (h : cache.sidOf id now = .ok hit) :
    Decided cache now request
      { answer :=
          { id := some (.sid hit.sid), direction := hit.direction, failure := none,
            name := hit.windowsName, domain := hit.windowsDomain }
        state := .cacheHit } where
  idle := rfl
  resolve e rules s := by simp [IdToSid.resolve, hid, hwanted, hordinary, h]

theorem decided_of_unreadable (hid : request.id = .unix id) (hwanted : request.wanted = .sid)
    (hordinary : WellKnown.ofId id = none) {failure : Failure}
    (h : cache.sidOf id now = .error failure) (hfound : failure ≠ .notFound) :
    Decided cache now request (.failed failure) where
  idle := rfl
  resolve e rules s := by simp [IdToSid.resolve, hid, hwanted, hordinary, h]

/-- An id that was minted here, or a request with a switch, gets no further than the cache. -/
theorem decided_of_denied (hid : request.id = .unix id) (hwanted : request.wanted = .sid)
    (hordinary : WellKnown.ofId id = none) (h : cache.sidOf id now = .error .notFound)
    (hdenied : (isEphemeral id.number || request.cacheOnly) = true) :
    Decided cache now request (.failed .denied) where
  idle := rfl
  resolve e rules s := by
    simp only [IdToSid.resolve, hid, hwanted, hordinary, h, settleUncached, hdenied, ne_eq,
      not_true_eq_false, if_false, if_true]

theorem decided_or_leftOpen (cache : Cache) (now : Int) (request : Request) :
    (∃ item, Decided cache now request item) ∨ ∃ id, LeftOpen cache now request id := by
  cases hid : request.id with
  | sid sid =>
      refine Or.inl ⟨.failed (.unsupported "SID as id to SID input"), rfl, fun e rules s => ?_⟩
      rw [resolve, hid]
  | unix id =>
      by_cases hwanted : request.wanted = .sid
      · cases hordinary : WellKnown.ofId id with
        | some entry => exact Or.inl ⟨_, decided_of_reserved hid hwanted hordinary⟩
        | none =>
            cases hcached : cache.sidOf id now with
            | ok hit => exact Or.inl ⟨_, decided_of_sidOf hid hwanted hordinary hcached⟩
            | error failure =>
                by_cases hmissing : failure = .notFound
                · subst hmissing
                  cases hdenied : isEphemeral id.number || request.cacheOnly with
                  | true =>
                      exact Or.inl ⟨_, decided_of_denied hid hwanted hordinary hcached hdenied⟩
                  | false =>
                      obtain ⟨hminted, hfree⟩ := Bool.or_eq_false_iff.mp hdenied
                      exact Or.inr ⟨id, hid, hwanted, hordinary, hcached, hminted, hfree⟩
                · exact Or.inl ⟨_, decided_of_unreadable hid hwanted hordinary hcached hmissing⟩
      · refine Or.inl ⟨.failed (.unsupported (id.kind.text ++ " to unix id")), rfl,
          fun e rules s => ?_⟩
        simp only [resolve, hid, ne_eq, hwanted, not_false_eq_true, if_true]

/-- Nothing is written for an idle item. -/
theorem record_of_isIdle {settings : Settings} {names : NameService}
    (h : item.state.isIdle = true) : record settings names now request item cache = cache := by
  unfold record
  split
  · next hstate _ _ =>
      rw [hstate] at h
      cases h
  · rfl

end IdToSid

/-- A unix id that is decided leaves everything as it was. -/
theorem IdToSid.Decided.mapIds {now : Int} {request : Request} {item : Item}
    {s : EngineState δ α} (h : IdToSid.Decided s.cache now request item) (e : Engine δ α) :
    e.mapIds now [request] s = ([item.answer], s) := by
  simp only [Engine.mapIds, Engine.mapId, h.resolve e s.rules s.directory,
    IdToSid.record_of_isIdle h.idle]

/--
**A request with a switch sees the cache and the time, and leaves no trace.**

Its answers are fixed by the request, the cache and the time: all engines on this cache give
them, whatever their settings, name services, directories and authorities are, and whatever the
rules and the ids that are left.  The directory and the authority stand in the state that they
were in, also if they keep a record of what they are asked; so they were not asked.  In a batch
of SIDs it gets the same answer wherever it stands, and without it the batch asks and does the
same, and the others are answered the same.
-/
theorem cacheOnly_sees_cache_and_leaves_no_trace (cache : Cache) (now : Int) (request : Request)
    (h : request.cacheOnly = true) :
    ∃ unix sid : Answer, ∀ {δ α : Type} (e : Engine δ α) (s : EngineState δ α), s.cache = cache →
      e.mapSids now [request] s = ([unix], s) ∧ e.mapIds now [request] s = ([sid], s) ∧
      ∀ (requests : List Request) (i : Nat), requests[i]? = some request →
        (e.mapSids now requests s).1[i]? = some unix ∧
        e.mapSids now (requests.eraseIdx i) s
          = ((e.mapSids now requests s).1.eraseIdx i, (e.mapSids now requests s).2) := by
  have hidle := SidToId.isIdle_firstPass h cache now
  rcases IdToSid.decided_or_leftOpen cache now request with ⟨item, hdecided⟩ | ⟨id, hopen⟩
  · refine ⟨(SidToId.firstPass cache now request).answer, item.answer, ?_⟩
    rintro δ α e s rfl
    exact ⟨mapSids_of_isIdle e s hidle, hdecided.mapIds e,
      fun requests i hi => mapSids_eraseIdx e s hidle hi⟩
  · rw [hopen.unflagged] at h
    cases h

/-- A minted id whose time is over: with a switch every engine answers it, also between two
others that need a new id. -/
theorem cacheOnly_sees_stale_id :
    let sid : Sid := { base := "S-1-5-21-7", rid := 1104 }
    let id : UnixId := { kind := .uid, number := 0x80000001 }
    let cache : Cache := Cache.putId {}
      { sid, id, windowsDomain := none, windowsName := none, unixName := none, direction := .both
        expiry := .at 600 }
    let request : Request := { id := .sid sid, wanted := .uid, noDirectory := true }
    let other : Request := { request with id := .sid { sid with rid := 1105 }, noDirectory := false }
    let answer : Answer := { id := some (.unix id), failure := none }
    request.cacheOnly = true ∧
      ∀ {δ α : Type} (e : Engine δ α) (s : EngineState δ α), s.cache = cache →
        e.mapSids 1000 [request] s = ([answer], s) ∧
        (e.mapSids 1000 [other, request, other] s).1[1]? = some answer ∧
        (e.mapSids 1000 [other, request, other] s).2 = (e.mapSids 1000 [other, other] s).2 := by
  intro sid id cache request other answer
  obtain ⟨unix, _, hanswers⟩ :=
    cacheOnly_sees_cache_and_leaves_no_trace cache 1000 request (by decide)
  -- What all engines answer can be computed with one of them.
  have hunix : unix = answer := by
    let bare : Engine Unit SequentialIds := Engine.bare
    let s : EngineState Unit SequentialIds :=
      { EngineState.fresh {} () .aboveReserved with cache }
    have hcomputed : (bare.mapSids 1000 [request] s).1 = [answer] := by decide +kernel
    rw [(hanswers bare s rfl).1] at hcomputed
    exact (List.cons.inj hcomputed).1
  refine ⟨by decide, fun e s hs => ?_⟩
  obtain ⟨hsingle, -, hbatch⟩ := hanswers e s hs
  obtain ⟨hat, hothers⟩ := hbatch [other, request, other] 1 rfl
  rw [hunix] at hsingle hat
  exact ⟨hsingle, hat, (congrArg Prod.snd hothers).symm⟩

end IdentityMap

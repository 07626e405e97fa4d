/-
A batch of SIDs and its directory.

The directory is asked once in a batch, for the SIDs whose names nothing else knows: not the
reserved identities, not the cache, and not the request itself.  However many items name a
SID, it is looked up once, and each item that waits for it is resolved with what was said of
it.  What was said is found by the place of the SID in the list that was looked up, so that
list must not repeat itself.

The engine with a recorded client does what the engine does, which is how the batches of a
lookup come to be seen from outside.
-/
import IdentityMap.Proofs.Directory.Retries
import IdentityMap.Proofs.Mapping.Run

namespace IdentityMap

variable {δ α : Type}

namespace SidToId

variable {cache : Cache} {now : Int} {request : Request} {sid : Sid}

/-! ### Items that wait for the directory -/

/-- Nothing but the directory can name the SID of the request, and the request allows it. -/
structure NeedsName (cache : Cache) (now : Int) (request : Request) (sid : Sid) : Prop where
  asked : request.id = .sid sid
  wanted : request.wanted ≠ .sid
  unflagged : request.noNewId = false ∧ request.noDirectory = false
  notReserved : WellKnown.idOf sid request.wanted = none ∧ WellKnown.ofSid sid = none
  /-- The cache has no id for the SID, or one that was minted here and is past its time. -/
  uncached : ∃ fallback, Spare cache now request sid fallback
  untrusted : request.givenName? = none ∨ request.wanted.accountType? = none
  unnamed : cache.nameOf sid now = .error .notFound

theorem awaitedSid?_of_isFinal {item : Item} (h : item.state.isFinal = true) :
    awaitedSid? request item = none := by
  unfold awaitedSid?
  split
  · next hstate _ => rw [hstate] at h; cases h
  · rfl

theorem isFinal_cacheAnswer (request : Request) (hit : CachedId) :
    (cacheAnswer request hit).state.isFinal = true := by
  unfold cacheAnswer
  cases hit.check request.wanted <;> rfl

/-- The search for a name leaves to the directory what it does not find in three places. -/
theorem findName_cases (cache : Cache) (now : Int) (request : Request) (sid : Sid)
    (fallback : Fallback) :
    awaitedSid? request (findName cache now request sid fallback) = none ∨
      ((request.givenName? = none ∨ request.wanted.accountType? = none) ∧
        WellKnown.ofSid sid = none ∧ cache.nameOf sid now = .error .notFound) := by
  unfold findName
  split
  · exact Or.inl rfl
  · next hneither =>
      have huntrusted : request.givenName? = none ∨ request.wanted.accountType? = none := by
        cases hname : request.givenName? with
        | none => exact Or.inl rfl
        | some name =>
            cases htype : request.wanted.accountType? with
            | none => exact Or.inr rfl
            | some type => exact (hneither name type hname htype).elim
      cases hreserved : WellKnown.ofSid sid with
      | some entry => exact Or.inl rfl
      | none =>
          cases hname : cache.nameOf sid now with
          | ok hit => exact Or.inl rfl
          | error failure =>
              by_cases hmissing : failure = .notFound
              · subst hmissing
                exact Or.inr ⟨huntrusted, rfl, rfl⟩
              · refine Or.inl ?_
                simp only
                exact awaitedSid?_of_isFinal rfl

/-- What the cache leaves to the search for a name: the request allows more than the cache, and
there is no id, or an expired one. -/
theorem searchCache_cases (cache : Cache) (now : Int) (request : Request) (sid : Sid) :
    awaitedSid? request (searchCache cache now request sid) = none ∨
      (request.cacheOnly = false ∧ ∃ fallback, Spare cache now request sid fallback ∧
        searchCache cache now request sid = findName cache now request sid fallback) := by
  unfold searchCache
  cases hcached : cache.idOf sid request.wanted now with
  | ok hit =>
      simp only
      by_cases hkeep : (!hit.expired || request.cacheOnly) = true
      · rw [if_pos hkeep]
        exact Or.inl (awaitedSid?_of_isFinal (isFinal_cacheAnswer request hit))
      · rw [if_neg hkeep]
        obtain ⟨hexpired, hfree⟩ := Bool.or_eq_false_iff.mp (Bool.eq_false_iff.mpr hkeep)
        rw [Bool.not_eq_false'] at hexpired
        exact Or.inr ⟨hfree, _, .expired hcached hexpired, rfl⟩
  | error failure =>
      by_cases hmissing : failure = .notFound
      · subst hmissing
        simp only
        by_cases honly : request.cacheOnly = true
        · rw [if_pos honly]
          exact Or.inl rfl
        · rw [if_neg honly]
          exact Or.inr ⟨Bool.eq_false_iff.mpr honly, _, .nothing hcached, rfl⟩
      · simp only
        exact Or.inl (awaitedSid?_of_isFinal rfl)

/-- An item that is left to the directory needs it. -/
theorem needsName_of_awaited (h : awaitedSid? request (firstPass cache now request) = some sid) :
    NeedsName cache now request sid := by
  have hid : request.id = .sid sid := id_of_awaitedSid? h
  simp only [firstPass, hid] at h
  by_cases hwanted : request.wanted = .sid
  · rw [if_pos hwanted] at h
    cases h
  rw [if_neg hwanted] at h
  cases hreserved : WellKnown.idOf sid request.wanted with
  | some reserved =>
      rw [hreserved] at h
      cases reserved <;> cases h
  | none =>
      rw [hreserved] at h
      rcases searchCache_cases cache now request sid with
        hnone | ⟨hfree, fallback, hspare, hsearch⟩
      · cases hnone.symm.trans h
      rw [hsearch] at h
      rcases findName_cases cache now request sid fallback with
        hnone | ⟨huntrusted, hname, hunnamed⟩
      · cases hnone.symm.trans h
      exact ⟨hid, hwanted, Bool.or_eq_false_iff.mp hfree, ⟨hreserved, hname⟩, ⟨fallback, hspare⟩,
        huntrusted, hunnamed⟩

/-- An item that needs the directory is left to it, with its expired id if it has one. -/
theorem firstPass_of_needsName (h : NeedsName cache now request sid) :
    ∃ fallback, Spare cache now request sid fallback ∧
      firstPass cache now request = { state := .awaitsDirectory fallback } := by
  obtain ⟨hid, hwanted, hunflagged, ⟨hreserved, hname⟩, ⟨fallback, hspare⟩, huntrusted,
    hunnamed⟩ := h
  have hfree : request.cacheOnly = false := Bool.or_eq_false_iff.mpr hunflagged
  have hnamed : findName cache now request sid fallback
      = { state := .awaitsDirectory fallback } := by
    unfold findName
    split
    · next hgiven htype =>
        rcases huntrusted with hnone | hnone
        · rw [hnone] at hgiven
          cases hgiven
        · rw [hnone] at htype
          cases htype
    · simp only [hname, hunnamed]
  refine ⟨fallback, hspare, ?_⟩
  simp only [firstPass, hid, if_neg hwanted, hreserved, searchCache]
  cases hspare with
  | nothing hcached =>
      simp only [hcached, hfree, Bool.false_eq_true, if_false]
      exact hnamed
  | expired hcached hexpired =>
      simp only [hcached, hexpired, hfree, Bool.not_true, Bool.or_self, Bool.false_eq_true,
        if_false]
      exact hnamed

theorem awaitedSid?_firstPass_iff :
    awaitedSid? request (firstPass cache now request) = some sid ↔
      NeedsName cache now request sid := by
  constructor
  · exact needsName_of_awaited
  · intro h
    obtain ⟨fallback, -, hitem⟩ := firstPass_of_needsName h
    rw [hitem, awaitedSid?, h.asked]

/-! ### The SIDs that are looked up -/

/-- Adding what is not there yet repeats nothing. -/
theorem nodup_foldl_once {sids acc : List Sid} (h : acc.Nodup) :
    (sids.foldl (fun sids sid => if sids.contains sid then sids else sids ++ [sid]) acc).Nodup := by
  refine List.foldlRecOn sids _ h fun acc hacc sid _ => ?_
  split
  · exact hacc
  · next hnew =>
      refine List.nodup_append.mpr ⟨hacc, List.pairwise_singleton _ sid, ?_⟩
      rintro a ha b hb rfl
      obtain rfl := List.mem_singleton.mp hb
      exact hnew (List.contains_iff_mem.mpr ha)

/-- The SIDs of a batch that are looked up. -/
def lookedUp (cache : Cache) (now : Int) (requests : List Request) : List Sid :=
  awaitedSids requests (requests.map (firstPass cache now))

theorem nodup_lookedUp (cache : Cache) (now : Int) (requests : List Request) :
    (lookedUp cache now requests).Nodup :=
  nodup_foldl_once List.nodup_nil

theorem mem_lookedUp {requests : List Request} :
    sid ∈ lookedUp cache now requests ↔
      ∃ request ∈ requests, NeedsName cache now request sid := by
  constructor
  · intro h
    rw [lookedUp, awaitedSids, mem_foldl_once] at h
    obtain ⟨p, hp, hawaited⟩ := List.mem_filterMap.mp (h.resolve_left List.not_mem_nil)
    rw [← List.map_prod_left_eq_zip] at hp
    obtain ⟨request, hrequest, rfl⟩ := List.mem_map.mp hp
    exact ⟨request, hrequest, awaitedSid?_firstPass_iff.mp hawaited⟩
  · rintro ⟨request, hrequest, hneeds⟩
    exact mem_awaitedSids hrequest (awaitedSid?_firstPass_iff.mpr hneeds)

/-- What is found for a SID stands where the SID stands, as no SID stands there twice. -/
theorem answerFor_at {sids : List Sid} {answers : List (Except Failure Directory.Entry)} {k : Nat}
    {answer : Except Failure Directory.Entry} (hsid : request.id = .sid sid)
    (hnodup : sids.Nodup) (hk : sids[k]? = some sid) (hanswer : answers[k]? = some answer) :
    answerFor (sids.zip answers) request = some answer := by
  rw [answerFor, hsid]
  simp only [Identity.sid?, Option.bind_some]
  induction sids generalizing answers k with
  | nil => cases hk
  | cons first rest ih =>
      cases answers with
      | nil => cases hanswer
      | cons answer' answers =>
          rw [List.zip_cons_cons, List.find?_cons]
          cases k with
          | zero =>
              cases hk
              cases hanswer
              simp
          | succ k =>
              have hmem : sid ∈ rest := List.mem_of_getElem? hk
              have hother : (first == sid) = false := by
                rw [beq_eq_false_iff_ne]
                rintro rfl
                exact (List.nodup_cons.mp hnodup).1 hmem
              simp only [hother]
              exact ih (List.nodup_cons.mp hnodup).2 hk hanswer

/-! ### The second pass of an item that waited -/

/-- What an item comes to that waited for the directory, when this was said of its SID. -/
def afterOutcome (e : Engine δ α) (rules : RuleTable) (now : Int) (request : Request) (sid : Sid)
    (fallback : Fallback) (outcome : Directory.Outcome) (m : Mint α) : Item × Mint α :=
  match outcome with
  | .ok entry =>
    applyRules e rules now request sid
      { name := entry.name, domain := entry.domain, type := entry.type } .directory fallback m
  | .error fault => settleUnknown e now request sid fault.failure fallback m

theorem secondPass_of_outcome {e : Engine δ α} {rules : RuleTable} {fallback : Fallback}
    {outcome : Directory.Outcome} {m : Mint α} (hsid : request.id = .sid sid) :
    secondPass e rules now request { state := .awaitsDirectory fallback }
        (some (outcome.mapError Directory.Fault.failure)) m
      = afterOutcome e rules now request sid fallback outcome m := by
  unfold secondPass
  rw [hsid]
  cases outcome with
  | ok entry => rfl
  | error fault => rfl

/-- The item after the first ones is what the second pass makes of it then. -/
theorem getElem?_settled (e : Engine δ α) (rules : RuleTable) (cache : Cache) (now : Int)
    (found : Found) (first : List Request) (request : Request) (rest : List Request)
    (m : Mint α) :
    (settled e rules cache now found (first ++ request :: rest) m).1[first.length]?
      = some (secondPass e rules now request (firstPass cache now request)
        (answerFor found request) (settled e rules cache now found first m).2).1 := by
  induction first generalizing m with
  | nil => rfl
  | cons other first ih => exact ih _

/-- The item that comes last is what the second pass makes of it after all the others. -/
theorem settled_concat (e : Engine δ α) (rules : RuleTable) (cache : Cache) (now : Int)
    (found : Found) (first : List Request) (request : Request) (m : Mint α) :
    settled e rules cache now found (first ++ [request]) m
      = ((settled e rules cache now found first m).1
          ++ [(secondPass e rules now request (firstPass cache now request)
            (answerFor found request) (settled e rules cache now found first m).2).1],
        (secondPass e rules now request (firstPass cache now request)
          (answerFor found request) (settled e rules cache now found first m).2).2) := by
  induction first generalizing m with
  | nil => rfl
  | cons other first ih =>
      have hrest := fun m => ih (m := m)
      simp only [settled] at hrest ⊢
      simp only [List.cons_append, List.map_cons, secondPasses, hrest]

end SidToId

/-! ### The recorded engine -/

/-- The engine with a record of what passes between it and the directory. -/
def Engine.recorded (e : Engine δ α) : Engine (Directory.Recorded δ) α where
  settings := e.settings
  names := e.names
  directory := e.directory.recorded
  authority := e.authority
  blockSize := e.blockSize

/-- The state with a record of the directory in which nothing stands but this. -/
def EngineState.recorded (s : EngineState δ α) (log : List Directory.Event) :
    EngineState (Directory.Recorded δ) α where
  cache := s.cache
  rules := s.rules
  directory := { state := s.directory, log }
  allocator := s.allocator

/-- The directory has no part in the second pass. -/
theorem settled_recorded (e : Engine δ α) (rules : RuleTable) (cache : Cache) (now : Int)
    (found : SidToId.Found) (requests : List Request) (m : Mint α) :
    settled e.recorded rules cache now found requests m
      = settled e rules cache now found requests m := by
  induction requests generalizing m with
  | nil => rfl
  | cons request rest ih =>
      have hitem : SidToId.secondPass e.recorded rules now request
          (SidToId.firstPass cache now request) (SidToId.answerFor found request) m
          = SidToId.secondPass e rules now request (SidToId.firstPass cache now request)
            (SidToId.answerFor found request) m := rfl
      simp only [settled, List.map_cons, SidToId.secondPasses, hitem] at ih ⊢
      rw [ih]

/-- What is found in a batch is what the rounds of one lookup say. -/
theorem batchFound_recorded (e : Engine δ α) (now : Int) (requests : List Request)
    (s : EngineState δ α) :
    ∃ (rounds : List Directory.Round) (directory : δ),
      let queries := (SidToId.lookedUp s.cache now requests).map Directory.Query.ofSid
      let found := (SidToId.lookedUp s.cache now requests).zip
        (((Directory.latest rounds).items queries).map (·.answer))
      Directory.Rounds queries 3 [] rounds ∧
        batchFound e now requests s = (found, directory) ∧
        batchFound e.recorded now requests (s.recorded [])
          = (found, { state := directory, log := rounds.flatMap (·.events) }) ∧
        (SidToId.lookedUp s.cache now requests = [] → directory = s.directory) := by
  by_cases hnone : SidToId.lookedUp s.cache now requests = []
  · refine ⟨[], s.directory, ?_, ?_, ?_, fun _ => rfl⟩
    · rw [hnone]
      exact .settled rfl
    · unfold SidToId.lookedUp at hnone ⊢
      simp only [batchFound, SidToId.directoryRound, hnone]
      rfl
    · unfold SidToId.lookedUp at hnone ⊢
      simp only [batchFound, SidToId.directoryRound, EngineState.recorded, hnone]
      rfl
  · have hsome : (SidToId.awaitedSids requests
        (requests.map (SidToId.firstPass s.cache now))).isEmpty = false :=
      List.isEmpty_eq_false_iff.mpr hnone
    obtain ⟨rounds, directory, hrounds, hrun, hrecorded⟩ := Directory.lookup_recorded e.directory
      ((SidToId.lookedUp s.cache now requests).map Directory.Query.ofSid) s.directory
    refine ⟨rounds, directory, hrounds, ?_, ?_, fun hempty => absurd hempty hnone⟩
    · unfold SidToId.lookedUp at hrun ⊢
      simp only [batchFound, SidToId.directoryRound, hsome, Bool.false_eq_true, if_false,
        Directory.lookupSids, hrun]
    · unfold SidToId.lookedUp at hrecorded ⊢
      simp only [batchFound, SidToId.directoryRound, EngineState.recorded, Engine.recorded, hsome,
        Bool.false_eq_true, if_false, Directory.lookupSids, hrecorded]

/-! ### One round -/

/-- What a batch asks of its directory.  `asked` are the SIDs that it looks up, and `rounds` are
the directory batches that this takes. -/
structure OneRound (e : Engine δ α) (now : Int) (requests : List Request) (s : EngineState δ α)
    (asked : List Sid) (rounds : List Directory.Round) : Prop where
  /-- The SIDs are those that need the directory, each once. -/
  nodup : asked.Nodup
  mem_iff : ∀ sid,
    sid ∈ asked ↔ ∃ request ∈ requests, SidToId.NeedsName s.cache now request sid
  /-- The batches are those of one lookup of these SIDs. -/
  lookup : Directory.Rounds (asked.map .ofSid) 3 [] rounds
  sent : ∀ round ∈ rounds, ∃ sids : List Sid, sids.Sublist asked ∧
    round.events.filterMap Directory.Event.query? = sids.map .ofSid
  started : (rounds.flatMap (·.events)).countP Directory.Event.isStart = rounds.length
  atMost : rounds.length ≤ 3
  /-- Without such a SID the directory is left alone. -/
  idle : asked = [] → rounds = [] ∧ (e.mapSids now requests s).2.directory = s.directory
  /-- With one there is a batch, and no second one unless a fault is transient. -/
  once : asked ≠ [] → 1 ≤ rounds.length ∧
    ((∀ round ∈ rounds, ∀ event ∈ round.events, ∀ fault ∈ event.faults,
      fault.isTransient = false) → rounds.length = 1)
  /-- An item that needs the directory comes to what was last said of its own SID. -/
  resolved : ∀ first request rest sid, requests = first ++ request :: rest →
    SidToId.NeedsName s.cache now request sid →
    ∃ k outcome fallback, asked[k]? = some sid ∧ Directory.latest rounds k = some outcome ∧
      SidToId.Spare s.cache now request sid fallback ∧
      (e.mapSids now requests s).1[first.length]?
        = some (SidToId.afterOutcome e s.rules now request sid fallback outcome
            (settled e s.rules s.cache now (batchFound e now requests s).1 first
              { allocator := s.allocator }).2).1.answer

section OneRound

variable {e : Engine δ α} {now : Int} {requests : List Request} {s : EngineState δ α}
  {rounds : List Directory.Round} {directory : δ}

/-- An item that needs the directory is resolved with what was last said of its SID. -/
theorem answer_of_needsName
    (hrounds : Directory.Rounds ((SidToId.lookedUp s.cache now requests).map .ofSid) 3 [] rounds)
    (hfound : (batchFound e now requests s).1 = (SidToId.lookedUp s.cache now requests).zip
      (((Directory.latest rounds).items
        ((SidToId.lookedUp s.cache now requests).map .ofSid)).map (·.answer)))
    {first rest : List Request} {request : Request} {sid : Sid}
    (hsplit : requests = first ++ request :: rest)
    (hneeds : SidToId.NeedsName s.cache now request sid) :
    ∃ k outcome fallback, (SidToId.lookedUp s.cache now requests)[k]? = some sid ∧
      Directory.latest rounds k = some outcome ∧ SidToId.Spare s.cache now request sid fallback ∧
      (e.mapSids now requests s).1[first.length]?
        = some (SidToId.afterOutcome e s.rules now request sid fallback outcome
            (settled e s.rules s.cache now (batchFound e now requests s).1 first
              { allocator := s.allocator }).2).1.answer := by
  have hmem : sid ∈ SidToId.lookedUp s.cache now requests :=
    SidToId.mem_lookedUp.mpr ⟨request, by simp [hsplit], hneeds⟩
  obtain ⟨k, hk⟩ := List.mem_iff_getElem?.mp hmem
  obtain ⟨hlt, -⟩ := List.getElem?_eq_some_iff.mp hk
  obtain ⟨outcome, houtcome, hanswer⟩ := hrounds.retries.answer k (by rwa [List.length_map])
  obtain ⟨fallback, hspare, hitem⟩ := SidToId.firstPass_of_needsName hneeds
  refine ⟨k, outcome, fallback, hk, houtcome, hspare, ?_⟩
  have hheard : SidToId.answerFor (batchFound e now requests s).1 request
      = some (outcome.mapError Directory.Fault.failure) := by
    rw [hfound]
    exact SidToId.answerFor_at hneeds.asked (SidToId.nodup_lookedUp ..) hk hanswer
  rw [mapSids_eq]
  simp only [List.getElem?_map]
  rw [hsplit, SidToId.getElem?_settled, ← hsplit, hheard, hitem,
    SidToId.secondPass_of_outcome hneeds.asked]
  rfl

theorem oneRound_of_rounds
    (hrounds : Directory.Rounds ((SidToId.lookedUp s.cache now requests).map .ofSid) 3 [] rounds)
    (hfound : batchFound e now requests s = ((SidToId.lookedUp s.cache now requests).zip
      (((Directory.latest rounds).items
        ((SidToId.lookedUp s.cache now requests).map .ofSid)).map (·.answer)), directory))
    (hidle : SidToId.lookedUp s.cache now requests = [] → directory = s.directory) :
    OneRound e now requests s (SidToId.lookedUp s.cache now requests) rounds where
  nodup := SidToId.nodup_lookedUp s.cache now requests
  mem_iff _ := SidToId.mem_lookedUp
  lookup := hrounds
  sent round hround := by
    obtain ⟨sids, hsids, hsent⟩ := List.sublist_map_iff.mp (hrounds.sent_sublist round hround)
    exact ⟨sids, hsids, hsent⟩
  started := hrounds.countP_isStart
  atMost := hrounds.length_le
  idle hnone := by
    refine ⟨?_, ?_⟩
    · rw [hnone] at hrounds
      cases hrounds with
      | settled _ => rfl
      | failed hopen _ _ _ => exact absurd rfl hopen
      | again hopen _ _ _ => exact absurd rfl hopen
    · rw [mapSids_eq, hfound]
      exact hidle hnone
  once hsome := by
    have hqueries : (SidToId.lookedUp s.cache now requests).map Directory.Query.ofSid ≠ [] := by
      rwa [ne_eq, List.map_eq_nil_iff]
    exact ⟨List.length_pos_iff.mpr (hrounds.ne_nil hqueries), hrounds.length_eq_one hqueries⟩
  resolved _ _ _ _ hsplit hneeds := answer_of_needsName hrounds (by rw [hfound]) hsplit hneeds

end OneRound

/--
**A batch asks the directory once for each SID that nothing else can name, and resolves each
item with what was said of its SID.**

The record of the batch says so, and the batch itself does the same.  The client may do
anything.
-/
theorem one_round_of_mapSids (e : Engine δ α) (now : Int) (requests : List Request)
    (s : EngineState δ α) :
    ∃ (asked : List Sid) (rounds : List Directory.Round),
      e.recorded.mapSids now requests (s.recorded [])
        = ((e.mapSids now requests s).1,
          (e.mapSids now requests s).2.recorded (rounds.flatMap (·.events))) ∧
      OneRound e now requests s asked rounds := by
  obtain ⟨rounds, directory, hrounds, hfound, hrecorded, hidle⟩ :=
    batchFound_recorded e now requests s
  refine ⟨SidToId.lookedUp s.cache now requests, rounds, ?_,
    oneRound_of_rounds hrounds hfound hidle⟩
  rw [mapSids_eq, mapSids_eq, hrecorded, hfound]
  simp only [EngineState.recorded, settled_recorded]
  rfl

end IdentityMap

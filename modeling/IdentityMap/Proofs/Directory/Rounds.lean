/-
What a fixed directory answers.

An outage fails one attempt, whatever is looked up.  So a lookup is answered from the
entries if fewer outages are left than there are attempts, and else it fails for every
query.  Either way the answer for a query does not depend on the queries beside it, and
a batch of SIDs is told the same of a SID as that SID alone would be.
-/
import IdentityMap.Directory.Fixed
import IdentityMap.Mapping.SidToId

namespace IdentityMap

namespace Directory

/-- What outages say of every query. -/
def outage : Fault :=
  .transient "injected failure"

/-- The item with the outcome. -/
def Item.told (item : Item) (outcome : Outcome) : Item :=
  { item with outcome := some outcome }

theorem answer_told (item : Item) (outcome : Outcome) :
    (item.told outcome).answer = outcome.mapError Fault.failure := by
  cases outcome <;> rfl

theorem isPending_told_outage (item : Item) : (item.told (.error outage)).isPending = true :=
  rfl

/-- All the items have to be sent. -/
def AllPending (items : List Item) : Prop :=
  ∀ item ∈ items, item.isPending = true

theorem pending_eq {items : List Item} (h : AllPending items) :
    pending items = items.map (·.query) := by
  rw [pending, List.filter_eq_self.mpr h]

theorem failPending_eq {items : List Item} (h : AllPending items) (fault : Fault) :
    failPending fault items = items.map (·.told (.error fault)) := by
  refine List.map_congr_left fun item hitem => ?_
  rw [if_pos (h item hitem)]
  rfl

theorem settle_eq {items : List Item} (h : AllPending items) (f : Query → Outcome) :
    settle ((items.map (·.query)).map f) items
      = items.map fun item => item.told (f item.query) := by
  induction items with
  | nil => rfl
  | cons item rest ih =>
      simp only [List.map_cons, settle, if_pos (h item (List.mem_cons_self ..))]
      rw [ih fun other hother => h other (List.mem_cons_of_mem _ hother)]
      rfl

namespace Fixed

variable {fixed : Fixed} {items : List Item} {queries : List Query} {s : State}

/-- The entries never ask for another attempt. -/
theorem isPending_told_resolve (item : Item) (query : Query) :
    (item.told (fixed.resolve query)).isPending = false := by
  cases query with
  | ofSid sid =>
      simp only [resolve]
      split
      · rfl
      · split <;> rfl
  | ofName name domain =>
      simp only [resolve]
      split <;> rfl

theorem enqueueAll_of_calm (fixed : Fixed) (sent queries : List Query) (h : s.outages = 0) :
    ∃ s', enqueueAll fixed.client sent queries s = (.ok (), s') ∧ s'.outages = 0 := by
  induction queries generalizing sent s with
  | nil => exact ⟨s, rfl, h⟩
  | cons query rest ih =>
      obtain ⟨s', henqueue, hs'⟩ :=
        ih (sent ++ [query]) (s := { s with traffic := s.traffic.countItem }) h
      have hadd : fixed.client.enqueue sent query s
          = (.ok (), { s with traffic := s.traffic.countItem }) := by
        simp only [client, h]
      refine ⟨s', ?_, hs'⟩
      simp only [enqueueAll, hadd]
      exact henqueue

/-- Without outages a batch is answered from the entries. -/
theorem runBatch_of_calm (fixed : Fixed) (queries : List Query) (h : s.outages = 0) :
    ∃ s', runBatch fixed.client queries s = (.ok (queries.map fixed.resolve), s') ∧
      s'.outages = 0 := by
  obtain ⟨s', henqueue, hs'⟩ := enqueueAll_of_calm fixed [] queries
    (s := { s with traffic := s.traffic.countBatch }) h
  refine ⟨s', ?_, hs'⟩
  have hstart : fixed.client.start queries.length s
      = (.ok (), { s with traffic := s.traffic.countBatch }) := rfl
  have hfinish : fixed.client.finish queries s' = (.ok (queries.map fixed.resolve), s') := rfl
  simp only [runBatch, hstart, henqueue, hfinish, List.length_map, if_true]

/-- An outage fails the batch, and is over. -/
theorem runBatch_of_outage (fixed : Fixed) {outages : Nat} (h : s.outages = outages + 1)
    (hne : queries ≠ []) :
    ∃ s', runBatch fixed.client queries s = (.error outage, s') ∧ s'.outages = outages := by
  obtain ⟨query, rest, rfl⟩ := List.exists_cons_of_ne_nil hne
  refine ⟨{ s with outages, traffic := s.traffic.countBatch }, ?_, rfl⟩
  simp only [runBatch, client, enqueueAll, h]
  rfl

theorem allPending_told_outage (items : List Item) :
    AllPending (items.map (·.told (.error outage))) := by
  intro item hitem
  obtain ⟨old, -, rfl⟩ := List.mem_map.mp hitem
  exact isPending_told_outage old

theorem isEmpty_pending (hpending : AllPending items) (hne : items ≠ []) :
    (pending items).isEmpty = false := by
  rw [pending_eq hpending, List.isEmpty_map, List.isEmpty_eq_false_iff]
  exact hne

/-- An attempt that meets an outage leaves everything pending. -/
theorem attempt_of_outage (fixed : Fixed) (attempts : Nat) {outages : Nat}
    (hpending : AllPending items) (hne : items ≠ []) (h : s.outages = outages + 1) :
    ∃ s', attempt fixed.client (attempts + 1) items s
        = attempt fixed.client attempts (items.map (·.told (.error outage))) s' ∧
      s'.outages = outages := by
  have hqueries : pending items ≠ [] := by
    rw [← List.isEmpty_eq_false_iff]
    exact isEmpty_pending hpending hne
  obtain ⟨s', hrun, hs'⟩ := runBatch_of_outage fixed h hqueries
  refine ⟨s', ?_, hs'⟩
  rw [attempt, if_neg (by rw [isEmpty_pending hpending hne]; decide), hrun]
  simp only
  rw [if_pos (show outage.isTransient = true from rfl), failPending_eq hpending]

/-- An attempt without outages is the last one: nothing is pending any more. -/
theorem attempt_of_calm (fixed : Fixed) (attempts : Nat) (hpending : AllPending items)
    (hne : items ≠ []) (h : s.outages = 0) :
    ∃ s', attempt fixed.client (attempts + 1) items s
        = (items.map fun item => item.told (fixed.resolve item.query), s') ∧ s'.outages = 0 := by
  obtain ⟨s', hrun, hs'⟩ := runBatch_of_calm fixed (pending items) h
  refine ⟨s', ?_, hs'⟩
  rw [attempt, if_neg (by rw [isEmpty_pending hpending hne]; decide), hrun]
  simp only [pending_eq hpending, settle_eq hpending]
  have hdone : pending (items.map fun item => item.told (fixed.resolve item.query)) = [] := by
    rw [pending, List.filter_eq_nil_iff.mpr ?_, List.map_nil]
    intro item hitem
    obtain ⟨old, -, rfl⟩ := List.mem_map.mp hitem
    rw [isPending_told_resolve]
    decide
  cases attempts with
  | zero => rfl
  | succ attempts => rw [attempt, if_pos (by rw [hdone]; rfl)]

/-- Enough attempts outlast the outages. -/
theorem attempt_of_lt (fixed : Fixed) {attempts : Nat} (hpending : AllPending items)
    (hne : items ≠ []) (h : s.outages < attempts) :
    ∃ s', attempt fixed.client attempts items s
        = (items.map fun item => item.told (fixed.resolve item.query), s') ∧ s'.outages = 0 := by
  induction attempts generalizing items s with
  | zero => exact absurd h (Nat.not_lt_zero _)
  | succ attempts ih =>
      cases houtages : s.outages with
      | zero => exact attempt_of_calm fixed attempts hpending hne houtages
      | succ outages =>
          obtain ⟨s', hattempt, hs'⟩ :=
            attempt_of_outage fixed attempts hpending hne houtages
          obtain ⟨s'', hlater, hs''⟩ :=
            ih (s := s') (allPending_told_outage items) (by simpa using hne) (by omega)
          refine ⟨s'', ?_, hs''⟩
          rw [hattempt, hlater, List.map_map]
          rfl

/-- Outages that outlast the attempts fail every query. -/
theorem attempt_of_le (fixed : Fixed) (attempts : Nat) (hpending : AllPending items)
    (hne : items ≠ []) (h : attempts + 1 ≤ s.outages) :
    ∃ s', attempt fixed.client (attempts + 1) items s
        = (items.map (·.told (.error outage)), s') ∧
      s'.outages = s.outages - (attempts + 1) := by
  obtain ⟨outages, houtages⟩ := Nat.exists_eq_add_of_lt (show 0 < s.outages by omega)
  rw [Nat.zero_add] at houtages
  induction attempts generalizing items s outages with
  | zero =>
      obtain ⟨s', hattempt, hs'⟩ :=
        attempt_of_outage fixed 0 hpending hne houtages
      exact ⟨s', by rw [hattempt, attempt], by omega⟩
  | succ attempts ih =>
      obtain ⟨s', hattempt, hs'⟩ :=
        attempt_of_outage fixed (attempts + 1) hpending hne houtages
      obtain ⟨s'', hlater, hs''⟩ := ih (s := s') (allPending_told_outage items)
        (by simpa using hne) (by omega) (outages - 1) (by omega)
      refine ⟨s'', ?_, by omega⟩
      rw [hattempt, hlater, List.map_map]
      rfl

/-! ### Lookups -/

/-- The answer for a query in a lookup that begins with so many outages to come. -/
def answerAt (fixed : Fixed) (outages : Nat) (query : Query) : Except Failure Entry :=
  if outages < maxAttempts then (fixed.resolve query).mapError Fault.failure
  else .error outage.failure

/-- **A lookup answers each query by itself.** -/
theorem lookup_eq (fixed : Fixed) (hne : queries ≠ []) (s : State) :
    ∃ s', lookup fixed.client queries s = (queries.map (fixed.answerAt s.outages), s') ∧
      s'.outages = s.outages - maxAttempts := by
  have hpending : AllPending (queries.map fun query => ⟨query, none⟩) := by
    intro item hitem
    obtain ⟨query, -, rfl⟩ := List.mem_map.mp hitem
    rfl
  have hitems : queries.map (fun query => (⟨query, none⟩ : Item)) ≠ [] := by simpa using hne
  unfold lookup
  by_cases h : s.outages < maxAttempts
  · obtain ⟨s', hattempt, hs'⟩ := attempt_of_lt fixed hpending hitems h
    refine ⟨s', ?_, by omega⟩
    simp only [hattempt, List.map_map]
    refine Prod.ext (List.map_congr_left fun query _ => ?_) rfl
    simp only [Function.comp, answer_told, answerAt, if_pos h]
  · obtain ⟨s', hattempt, hs'⟩ :=
      attempt_of_le fixed 2 hpending hitems (Nat.not_lt.mp h)
    refine ⟨s', ?_, hs'⟩
    simp only [maxAttempts, hattempt, List.map_map]
    refine Prod.ext (List.map_congr_left fun query _ => ?_) rfl
    simp only [Function.comp, answer_told, answerAt, if_neg h]
    rfl

/-- One name is looked up in the entries, or not at all. -/
theorem lookupOne_eq (fixed : Fixed) (query : Query) (s : State) :
    ∃ s', lookupOne fixed.client query s = (fixed.answerAt s.outages query, s') ∧
      s'.outages = s.outages - maxAttempts := by
  obtain ⟨s', hlookup, hs'⟩ := lookup_eq fixed (List.cons_ne_nil query []) s
  exact ⟨s', by rw [lookupOne, hlookup]; rfl, hs'⟩

theorem entry_of_answerAt {fixed : Fixed} {outages : Nat} {query : Query} {entry : Entry}
    (h : fixed.answerAt outages query = .ok entry) : fixed.resolve query = .ok entry := by
  unfold answerAt at h
  split at h
  · cases hresolve : fixed.resolve query with
    | error fault => rw [hresolve] at h; cases h
    | ok found => rw [hresolve] at h; cases h; rfl
  · cases h

/-- The entry for a SID is about that SID. -/
theorem entry_of_sid {sid : Sid} {entry : Entry} (h : fixed.resolve (.ofSid sid) = .ok entry) :
    entry ∈ fixed.entries ∧ entry.sid = sid := by
  simp only [resolve] at h
  split at h
  · cases h
  · split at h
    · next found hfound =>
        cases h
        exact ⟨List.mem_of_find?_eq_some hfound, by simpa using List.find?_some hfound⟩
    · cases h

/-- The entry for a name has that name, in some spelling. -/
theorem entry_of_name {name domain : String} {entry : Entry}
    (h : fixed.resolve (.ofName name domain) = .ok entry) :
    entry ∈ fixed.entries ∧ isNamed name domain entry = true := by
  simp only [resolve] at h
  split at h
  · next found hfound =>
      cases h
      exact ⟨List.mem_of_find?_eq_some hfound, List.find?_some hfound⟩
  · cases h

/-- A SID that has an entry is not called unknown. -/
theorem answerAt_ne_notFound {sid : Sid} (h : ∃ entry ∈ fixed.entries, entry.sid = sid)
    (outages : Nat) : fixed.answerAt outages (.ofSid sid) ≠ .error .notFound := by
  intro hanswer
  unfold answerAt at hanswer
  split at hanswer
  · simp only [resolve] at hanswer
    split at hanswer
    · cases hanswer
    · split at hanswer
      · cases hanswer
      · next hnone =>
          obtain ⟨entry, hentry, hsid⟩ := h
          exact absurd (beq_iff_eq.mpr hsid) (List.find?_eq_none.mp hnone entry hentry)
  · cases hanswer

/-- The SID can be looked up although so many outages are to come. -/
def CanReach (fixed : Fixed) (outages : Nat) (sid : Sid) : Prop :=
  sid ∉ fixed.timeouts ∧ outages < maxAttempts

theorem CanReach.mono {sid : Sid} {outages outages' : Nat} (h : fixed.CanReach outages sid)
    (hle : outages' ≤ outages) : fixed.CanReach outages' sid :=
  ⟨h.1, Nat.lt_of_le_of_lt hle h.2⟩

/-- A SID that has an entry is named, if it can be looked up. -/
theorem answerAt_ne_error {sid : Sid} {outages : Nat} {failure : Failure}
    (h : ∃ entry ∈ fixed.entries, entry.sid = sid) (hreach : fixed.CanReach outages sid) :
    fixed.answerAt outages (.ofSid sid) ≠ .error failure := by
  obtain ⟨htimeout, houtages⟩ := hreach
  intro hanswer
  rw [answerAt, if_pos houtages] at hanswer
  simp only [resolve] at hanswer
  split at hanswer
  · next hcontains => exact htimeout (List.contains_iff_mem.mp hcontains)
  · split at hanswer
    · cases hanswer
    · next hnone =>
        obtain ⟨entry, hentry, hsid⟩ := h
        exact absurd (beq_iff_eq.mpr hsid) (List.find?_eq_none.mp hnone entry hentry)

/-- The lookup fails if it cannot be made. -/
theorem exists_answerAt_error {sid : Sid} {outages : Nat} (h : ¬ fixed.CanReach outages sid) :
    ∃ failure, fixed.answerAt outages (.ofSid sid) = .error failure := by
  by_cases houtages : outages < maxAttempts
  · have htimeout : sid ∈ fixed.timeouts :=
      Decidable.byContradiction fun hlisted => h ⟨hlisted, houtages⟩
    refine ⟨Fault.timeout.failure, ?_⟩
    rw [answerAt, if_pos houtages, resolve, if_pos (List.contains_iff_mem.mpr htimeout)]
    rfl
  · exact ⟨outage.failure, if_neg houtages⟩

end Fixed
end Directory

/-! ### The round of a batch -/

namespace SidToId

theorem mem_foldl_once {sids acc : List Sid} {sid : Sid} :
    sid ∈ sids.foldl (fun sids sid => if sids.contains sid then sids else sids ++ [sid]) acc ↔
      sid ∈ acc ∨ sid ∈ sids := by
  induction sids generalizing acc with
  | nil => simp
  | cons first rest ih =>
      rw [List.foldl_cons, ih]
      by_cases hmem : acc.contains first = true
      · have hfirst : first ∈ acc := List.contains_iff_mem.mp hmem
        rw [if_pos hmem, List.mem_cons]
        constructor
        · rintro (h | h)
          · exact Or.inl h
          · exact Or.inr (Or.inr h)
        · rintro (h | rfl | h)
          · exact Or.inl h
          · exact Or.inl hfirst
          · exact Or.inr h
      · rw [if_neg hmem, List.mem_append, List.mem_singleton, List.mem_cons, or_assoc]

/-- Every SID that an item waits for is looked up. -/
theorem mem_awaitedSids {cache : Cache} {now : Int} {requests : List Request} {request : Request}
    {sid : Sid} (hmem : request ∈ requests)
    (h : awaitedSid? request (firstPass cache now request) = some sid) :
    sid ∈ awaitedSids requests (requests.map (firstPass cache now)) := by
  rw [awaitedSids, mem_foldl_once, List.mem_filterMap]
  refine Or.inr ⟨(request, firstPass cache now request), ?_, h⟩
  rw [← List.map_prod_left_eq_zip]
  exact List.mem_map.mpr ⟨request, hmem, rfl⟩

/-- What is found for the SID of a request, if each SID is answered by itself. -/
theorem answerFor_zip {sids : List Sid} {f : Sid → Except Failure Directory.Entry}
    {request : Request} {sid : Sid} (hsid : request.id = .sid sid) :
    answerFor (sids.zip (sids.map f)) request = if sid ∈ sids then some (f sid) else none := by
  rw [answerFor, hsid]
  simp only [Identity.sid?, Option.bind_some]
  induction sids with
  | nil => rfl
  | cons first rest ih =>
      rw [List.map_cons, List.zip_cons_cons, List.find?_cons]
      by_cases hsame : first = sid
      · subst hsame
        simp
      · have hother : (first == sid) = false := beq_eq_false_iff_ne.mpr hsame
        simp only [hother, ih, List.mem_cons, Ne.symm hsame, false_or]

variable {fixed : Directory.Fixed} {requests : List Request} {items : List Item}
  {s : Directory.Fixed.State}

/-- A round is as good as one lookup for each SID. -/
theorem directoryRound_eq (fixed : Directory.Fixed) (requests : List Request) (items : List Item)
    (s : Directory.Fixed.State) :
    ∃ s', directoryRound fixed.client requests items s
        = ((awaitedSids requests items).zip ((awaitedSids requests items).map fun sid =>
            fixed.answerAt s.outages (.ofSid sid)), s') ∧ s'.outages ≤ s.outages := by
  unfold directoryRound
  by_cases hempty : (awaitedSids requests items).isEmpty = true
  · refine ⟨s, ?_, Nat.le_refl _⟩
    rw [List.isEmpty_iff] at hempty
    simp only [hempty]
    rfl
  · have hne : (awaitedSids requests items).map Directory.Query.ofSid ≠ [] := by
      simpa using hempty
    obtain ⟨s', hlookup, hs'⟩ := Directory.Fixed.lookup_eq fixed hne s
    refine ⟨s', ?_, by omega⟩
    simp only [if_neg hempty, Directory.lookupSids, hlookup, List.map_map]
    rfl

/-- What is found for the SID of a request is the answer for that SID alone. -/
theorem answerFor_round {request : Request} {sid : Sid} (hsid : request.id = .sid sid)
    {answer : Except Failure Directory.Entry}
    (h : answerFor (directoryRound fixed.client requests items s).1 request = some answer) :
    answer = fixed.answerAt s.outages (.ofSid sid) := by
  obtain ⟨s', hround, -⟩ := directoryRound_eq fixed requests items s
  rw [hround, answerFor_zip hsid] at h
  split at h
  · exact (Option.some.inj h).symm
  · cases h

/-- An item that waits for the directory gets its answer. -/
theorem answerFor_awaited {cache : Cache} {now : Int} {request : Request} {sid : Sid}
    (hmem : request ∈ requests) (hsid : request.id = .sid sid)
    (h : awaitedSid? request (firstPass cache now request) = some sid) :
    answerFor (directoryRound fixed.client requests (requests.map (firstPass cache now)) s).1
        request
      = some (fixed.answerAt s.outages (.ofSid sid)) := by
  obtain ⟨s', hround, -⟩ :=
    directoryRound_eq fixed requests (requests.map (firstPass cache now)) s
  rw [hround, answerFor_zip hsid, if_pos (mem_awaitedSids hmem h)]

end SidToId
end IdentityMap

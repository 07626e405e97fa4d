/-
Runs in which the caller asks for identities and says no names.

`Trace` lists such runs one batch of SIDs or one unix id at a time, with all replies so
far, so that an invariant of them is an induction with two steps.  A batch of unix ids is
the same as its lookups one after another.

A batch of SIDs is not: its items share a directory round and the ids that are minted.
Still, with a fixed directory an item is answered as if the batch ended with it.
-/
import IdentityMap.Proofs.Directory.Rounds
import IdentityMap.Proofs.Mapping.Run

namespace IdentityMap

variable {δ α : Type}

/-- A batch in which no request carries a name. -/
def Call.IsAnonymous : Call → Prop
  | .mapSids requests | .mapIds requests => ∀ request ∈ requests, request.givenName? = none
  | _ => False

/-- No run of batches without names has such a reply. -/
def Engine.Never (e : Engine δ α) (start : EngineState δ α) (P : Reply → Prop) : Prop :=
  ∀ calls : List (Int × Call), (∀ timed ∈ calls, timed.2.IsAnonymous) →
    ∀ reply ∈ (e.run calls start).1, ¬ P reply

/-- No run of batches without names ends in such a state. -/
def Engine.NeverIn (e : Engine δ α) (start : EngineState δ α) (P : EngineState δ α → Prop) :
    Prop :=
  ∀ calls : List (Int × Call), (∀ timed ∈ calls, timed.2.IsAnonymous) → ¬ P (e.run calls start).2

/-- The replies so far and the state, in a run of batches without names. -/
inductive Trace (e : Engine δ α) (start : EngineState δ α) : List Reply → EngineState δ α → Prop
  | start : Trace e start [] start
  | mapSids {before : List Reply} {s : EngineState δ α} (h : Trace e start before s) (now : Int)
      {requests : List Request} (hnames : ∀ request ∈ requests, request.givenName? = none) :
      Trace e start (before ++ replies requests (e.mapSids now requests s).1)
        (e.mapSids now requests s).2
  | mapId {before : List Reply} {s : EngineState δ α} (h : Trace e start before s) (now : Int)
      {request : Request} (hname : request.givenName? = none) :
      Trace e start (before ++ [{ asked := request.id, answer := (e.mapId now request s).1 }])
        (e.mapId now request s).2

namespace Trace

variable {e : Engine δ α} {start s : EngineState δ α} {before : List Reply}

/-- A batch of unix ids is one lookup after another. -/
theorem mapIds (h : Trace e start before s) (now : Int) {requests : List Request}
    (hnames : ∀ request ∈ requests, request.givenName? = none) :
    Trace e start (before ++ replies requests (e.mapIds now requests s).1)
      (e.mapIds now requests s).2 := by
  induction requests generalizing before s with
  | nil =>
      rw [replies, List.zip_nil_left, List.map_nil, List.append_nil]
      exact h
  | cons request rest ih =>
      have hfirst := h.mapId now (hnames request (List.mem_cons_self ..))
      have hrest := ih hfirst fun other hother => hnames other (List.mem_cons_of_mem _ hother)
      rw [List.append_assoc] at hrest
      exact hrest

/-- Every run without names is listed. -/
theorem run (h : Trace e start before s) {calls : List (Int × Call)}
    (hcalls : ∀ timed ∈ calls, timed.2.IsAnonymous) :
    Trace e start (before ++ (e.run calls s).1) (e.run calls s).2 := by
  induction calls generalizing before s with
  | nil =>
      rw [Engine.run, List.append_nil]
      exact h
  | cons timed rest ih =>
      obtain ⟨now, call⟩ := timed
      have hrest : ∀ timed ∈ rest, timed.2.IsAnonymous :=
        fun timed htimed => hcalls timed (List.mem_cons_of_mem _ htimed)
      have hcall : Trace e start (before ++ (call.run e now s).1) (call.run e now s).2 := by
        have hnames := hcalls _ (List.mem_cons_self ..)
        cases call with
        | mapSids requests => exact h.mapSids now hnames
        | mapIds requests => exact h.mapIds now hnames
        | mapName _ _ _ => exact hnames.elim
        | nameId _ => exact hnames.elim
        | addRule _ => exact hnames.elim
        | removeRules _ => exact hnames.elim
        | flushRules _ => exact hnames.elim
        | purge => exact hnames.elim
        | clear => exact hnames.elim
      have hall := ih hcall hrest
      rw [List.append_assoc] at hall
      exact hall

/-- Everything that is listed is a run without names. -/
theorem exists_calls (h : Trace e start before s) :
    ∃ calls : List (Int × Call), (∀ timed ∈ calls, timed.2.IsAnonymous) ∧
      e.run calls start = (before, s) := by
  induction h with
  | start => exact ⟨[], by simp, rfl⟩
  | @mapSids before s _ now requests hnames ih =>
      obtain ⟨calls, hcalls, hrun⟩ := ih
      refine ⟨calls ++ [(now, .mapSids requests)], ?_, ?_⟩
      · intro timed htimed
        rcases List.mem_append.mp htimed with htimed | htimed
        · exact hcalls timed htimed
        · obtain rfl := List.mem_singleton.mp htimed
          exact hnames
      · rw [Engine.run_append, hrun]
        simp only [Engine.run, Call.run, List.append_nil]
  | @mapId before s _ now request hname ih =>
      obtain ⟨calls, hcalls, hrun⟩ := ih
      refine ⟨calls ++ [(now, .mapIds [request])], ?_, ?_⟩
      · intro timed htimed
        rcases List.mem_append.mp htimed with htimed | htimed
        · exact hcalls timed htimed
        · obtain rfl := List.mem_singleton.mp htimed
          intro other hother
          obtain rfl := List.mem_singleton.mp hother
          exact hname
      · rw [Engine.run_append, hrun]
        rfl

/-- A reply was given by a batch of SIDs or by the lookup of one unix id. -/
theorem exists_step (h : Trace e start before s) {reply : Reply} (hreply : reply ∈ before) :
    ∃ before s, Trace e start before s ∧
      ((∃ now requests, (∀ request ∈ requests, request.givenName? = none) ∧
          reply ∈ replies requests (e.mapSids now requests s).1) ∨
        ∃ now request, request.givenName? = none ∧
          reply = { asked := request.id, answer := (e.mapId now request s).1 }) := by
  induction h with
  | start => cases hreply
  | @mapSids before s h now requests hnames ih =>
      rcases List.mem_append.mp hreply with hreply | hreply
      · exact ih hreply
      · exact ⟨before, s, h, Or.inl ⟨now, requests, hnames, hreply⟩⟩
  | @mapId before s h now request hname ih =>
      rcases List.mem_append.mp hreply with hreply | hreply
      · exact ih hreply
      · exact ⟨before, s, h, Or.inr ⟨now, request, hname, List.mem_singleton.mp hreply⟩⟩

theorem rules (h : Trace e start before s) : s.rules = start.rules := by
  induction h with
  | start => rfl
  | mapSids _ now _ ih =>
      rw [mapSids_eq]
      exact ih
  | mapId _ now _ ih => exact ih

/-- An engine that was just started has no rows. -/
theorem wellFormed_fresh (rules : RuleTable) (directory : δ) (a : α) :
    (EngineState.fresh rules directory a).cache.WellFormed := by
  intro row hrow
  cases hrow

/-- Rows of the cache read as mappings. -/
theorem wellFormed (h : Trace e start before s) (hstart : start.cache.WellFormed) :
    s.cache.WellFormed := by
  induction h with
  | start => exact hstart
  | @mapSids before s _ now requests _ ih =>
      rw [mapSids_eq]
      refine recordAll_inv Cache.WellFormed (fun {c p} _ hc => ?_) ih
      rcases SidToId.record_cases e.settings now p.1 p.2 c with ⟨-, hsame⟩ | ⟨m, -, hwrote⟩
      · rw [hsame]
        exact hc
      · exact hc.wrote hwrote
  | @mapId before s _ now request _ ih =>
      simp only [Engine.mapId]
      rcases IdToSid.record_cases e.settings e.names now request
        (IdToSid.resolve e s.cache s.rules now request s.directory).1 s.cache with
        ⟨-, hsame⟩ | ⟨m, -, hwrote⟩
      · rw [hsame]
        exact ih
      · exact ih.wrote hwrote

end Trace

/-- A batch of SIDs does not answer for unix ids. -/
theorem exists_sid_of_mapSids {e : Engine δ α} {now : Int} {requests : List Request}
    {s : EngineState δ α} {reply : Reply}
    (h : reply ∈ replies requests (e.mapSids now requests s).1)
    (hok : reply.answer.isSuccess = true) : ∃ sid, reply.asked = .sid sid := by
  rw [mapSids_eq] at h
  obtain ⟨p, hp, rfl⟩ := mem_replies_map h
  obtain ⟨_, _, houtcome⟩ := exists_outcome hp
  obtain ⟨sid, -, hsid, -⟩ := houtcome.asked hok
  exact ⟨sid, hsid⟩

/-! ### Batches with a fixed directory -/

/-- No outages are added. -/
theorem Trace.outages_le {e : Engine Directory.Fixed.State α} {fixed : Directory.Fixed}
    (hdirectory : e.directory = fixed.client) {start s : EngineState Directory.Fixed.State α}
    {before : List Reply} (h : Trace e start before s) :
    s.directory.outages ≤ start.directory.outages := by
  induction h with
  | start => exact Nat.le_refl _
  | @mapSids before s _ now requests _ ih =>
      obtain ⟨d, hround, hd⟩ := SidToId.directoryRound_eq fixed requests
        (requests.map (SidToId.firstPass s.cache now)) s.directory
      rw [mapSids_eq, batchFound, hdirectory, hround]
      exact Nat.le_trans hd ih
  | @mapId before s _ now request _ ih =>
      simp only [Engine.mapId]
      refine IdToSid.resolve_inv e s.cache s.rules now request
        (fun d => d.outages ≤ start.directory.outages) (fun {query d} hd => ?_) ih
      obtain ⟨d', hlookup, hd'⟩ := Directory.Fixed.lookupOne_eq fixed query d
      rw [hdirectory, hlookup]
      change d'.outages ≤ _
      omega

/-- With a fixed directory, an item is settled as if the batch ended with it. -/
theorem mapSids_upto {e : Engine Directory.Fixed.State α} {fixed : Directory.Fixed}
    (hdirectory : e.directory = fixed.client) {now : Int} {requests : List Request}
    {s : EngineState Directory.Fixed.State α} {p : Request × Item}
    (hp : p ∈ requests.zip (settled e s.rules s.cache now (batchFound e now requests s).1 requests
      { allocator := s.allocator }).1) :
    ∃ first : List Request, (∀ request ∈ first, request ∈ requests) ∧ p.1 ∈ requests ∧
      ∃ cache, (e.mapSids now (first ++ [p.1]) s).2.cache
        = SidToId.record e.settings now p.1 p.2 cache := by
  obtain ⟨first, rest, items, rfl, hitems, hlength⟩ := mem_zip_settled hp
  have hmem : ∀ request ∈ first ++ [p.1], request ∈ first ++ p.1 :: rest := by
    intro request hrequest
    rcases List.mem_append.mp hrequest with h | h
    · exact List.mem_append_left _ h
    · obtain rfl := List.mem_singleton.mp h
      exact List.mem_append_right _ (List.mem_cons_self ..)
  -- Both rounds give an item that waits the answer for its SID alone.
  have hsame : ∀ request ∈ first ++ [p.1], ∀ sid,
      SidToId.awaitedSid? request (SidToId.firstPass s.cache now request) = some sid →
      SidToId.answerFor (batchFound e now (first ++ [p.1]) s).1 request
        = SidToId.answerFor (batchFound e now (first ++ p.1 :: rest) s).1 request := by
    intro request hrequest sid hawaits
    have hsid := SidToId.id_of_awaitedSid? hawaits
    rw [batchFound, batchFound, hdirectory, SidToId.answerFor_awaited hrequest hsid hawaits,
      SidToId.answerFor_awaited (hmem request hrequest) hsid hawaits]
  refine ⟨first, fun request hrequest => List.mem_append_left _ hrequest,
    List.mem_append_right _ (List.mem_cons_self ..),
    SidToId.recordAll e.settings now (first.zip items) s.cache, ?_⟩
  rw [mapSids_eq, settled_congr hsame]
  simp only [hitems]
  rw [List.zip_append hlength.symm]
  exact recordAll_concat ..

/-- What runs never do can be read off their traces. -/
theorem Engine.never_iff {e : Engine δ α} {start : EngineState δ α} {P : Reply → Prop} :
    e.Never start P ↔ ∀ before s, Trace e start before s → ∀ reply ∈ before, ¬ P reply := by
  constructor
  · intro h before s htrace
    obtain ⟨calls, hcalls, hrun⟩ := htrace.exists_calls
    have hnever := h calls hcalls
    rw [hrun] at hnever
    exact hnever
  · intro h calls hcalls
    have htrace := (Trace.start : Trace e start [] start).run hcalls
    rw [List.nil_append] at htrace
    exact h _ _ htrace

theorem Engine.neverIn_iff {e : Engine δ α} {start : EngineState δ α}
    {P : EngineState δ α → Prop} :
    e.NeverIn start P ↔ ∀ before s, Trace e start before s → ¬ P s := by
  constructor
  · intro h before s htrace
    obtain ⟨calls, hcalls, hrun⟩ := htrace.exists_calls
    have hnever := h calls hcalls
    rw [hrun] at hnever
    exact hnever
  · intro h calls hcalls
    exact h _ _ ((Trace.start : Trace e start [] start).run hcalls)

end IdentityMap

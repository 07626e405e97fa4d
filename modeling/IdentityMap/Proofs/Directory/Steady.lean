/-
Directories that always say the same.

A fixed directory answers from its entries unless an outage meets it, and an absent one
knows nothing.  So as long as no outage is to come, what is said of a query depends neither
on the queries beside it nor on what was asked before.  All that a batch has of such a
directory is its answer for each SID by itself, and all that a unix id has of it is its
answer for each name.
-/
import IdentityMap.Proofs.Directory.Rounds
import IdentityMap.Proofs.Mapping.Run

namespace IdentityMap

variable {δ α : Type}

namespace Directory

/-- A fixed directory without an outage to come, or no directory at all. -/
inductive Quiet : {δ : Type} → Client δ → δ → Prop
  | fixed (fixed : Fixed) {s : Fixed.State} (h : s.outages = 0) : Quiet fixed.client s
  | absent : Quiet absent ()

/-- As long as it is calm, the directory has one answer for each query, and stays calm. -/
def Steady (client : Client δ) (answer : Query → Except Failure Entry) (calm : δ → Prop) : Prop :=
  ∀ queries ≠ [], ∀ s, calm s →
    ∃ s', lookup client queries s = (queries.map answer, s') ∧ calm s'

theorem steady_fixed (fixed : Fixed) :
    Steady fixed.client (fixed.answerAt 0) fun s => s.outages = 0 := by
  intro queries hne s hs
  obtain ⟨s', hlookup, hs'⟩ := Fixed.lookup_eq fixed hne s
  rw [hs] at hlookup
  exact ⟨s', hlookup, by omega⟩

/-- An absent directory says at once that it knows nothing. -/
theorem attempt_absent {items : List Item} (hpending : AllPending items) (attempts : Nat) :
    attempt absent (attempts + 1) items ()
      = (items.map (·.told (.error .notFound)), ()) := by
  have henqueue : ∀ sent queries, enqueueAll absent sent queries () = (.ok (), ()) := by
    intro sent queries
    induction queries generalizing sent with
    | nil => rfl
    | cons query rest ih => exact ih (sent ++ [query])
  have hrun : ∀ queries, runBatch absent queries ()
      = (.ok (queries.map fun _ => .error .notFound), ()) := by
    intro queries
    have hfinish : absent.finish queries () = (.ok (queries.map fun _ => .error .notFound), ()) :=
      rfl
    have hstart : absent.start queries.length () = (.ok (), ()) := rfl
    simp only [runBatch, hstart, henqueue, hfinish, List.length_map, if_true]
  have hdone : pending (items.map (·.told (.error .notFound))) = [] := by
    rw [pending, List.filter_eq_nil_iff.mpr ?_, List.map_nil]
    intro item hitem
    obtain ⟨old, -, rfl⟩ := List.mem_map.mp hitem
    exact Bool.false_ne_true
  rw [attempt, hrun]
  split
  · next hnone =>
      rw [pending_eq hpending, List.isEmpty_map, List.isEmpty_iff] at hnone
      rw [hnone]
      rfl
  · simp only [pending_eq hpending, settle_eq hpending]
    cases attempts with
    | zero => rfl
    | succ attempts => rw [attempt, if_pos (by rw [hdone]; rfl)]

theorem steady_absent : Steady absent (fun _ => .error .notFound) fun _ => True := by
  intro queries _ s _
  have hpending : AllPending (queries.map fun query => ⟨query, none⟩) := by
    intro item hitem
    obtain ⟨query, -, rfl⟩ := List.mem_map.mp hitem
    rfl
  refine ⟨(), ?_, trivial⟩
  simp only [lookup, maxAttempts, attempt_absent hpending, List.map_map]
  rfl

theorem Quiet.steady {client : Client δ} {s : δ} (h : Quiet client s) :
    ∃ answer calm, Steady client answer calm ∧ calm s := by
  cases h with
  | fixed fixed h => exact ⟨_, _, steady_fixed fixed, h⟩
  | absent => exact ⟨_, _, steady_absent, trivial⟩

theorem Steady.lookupOne {client : Client δ} {answer : Query → Except Failure Entry}
    {calm : δ → Prop} (h : Steady client answer calm) (query : Query) {s : δ} (hs : calm s) :
    ∃ s', lookupOne client query s = (answer query, s') ∧ calm s' := by
  obtain ⟨s', hlookup, hs'⟩ := h [query] (List.cons_ne_nil query []) s hs
  exact ⟨s', by rw [Directory.lookupOne, hlookup]; rfl, hs'⟩

end Directory

variable {e : Engine δ α} {answer : Directory.Query → Except Failure Directory.Entry}
  {calm : δ → Prop} {now : Int} {requests : List Request} {request : Request}

/-! ### Batches of SIDs -/

/-- An item that waits for the directory gets the answer for its SID. -/
theorem answerFor_batchFound {s : EngineState δ α}
    (h : Directory.Steady e.directory answer calm) (hs : calm s.directory)
    (hmem : request ∈ requests) {sid : Sid}
    (hawaits : SidToId.awaitedSid? request (SidToId.firstPass s.cache now request) = some sid) :
    SidToId.answerFor (batchFound e now requests s).1 request = some (answer (.ofSid sid)) := by
  have hasked := SidToId.mem_awaitedSids hmem hawaits
  have hne : (SidToId.awaitedSids requests (requests.map (SidToId.firstPass s.cache now))).map
      Directory.Query.ofSid ≠ [] := by
    simpa using List.ne_nil_of_mem hasked
  have hsome : (SidToId.awaitedSids requests
      (requests.map (SidToId.firstPass s.cache now))).isEmpty = false := by
    simpa using List.ne_nil_of_mem hasked
  obtain ⟨s', hlookup, -⟩ := h _ hne s.directory hs
  rw [batchFound, SidToId.directoryRound]
  simp only [hsome, Bool.false_eq_true, if_false, Directory.lookupSids, hlookup, List.map_map]
  rw [SidToId.answerFor_zip (SidToId.id_of_awaitedSid? hawaits), if_pos hasked]
  rfl

/-- A batch hears no more of a SID than another batch from the same state. -/
theorem settled_batchFound {s : EngineState δ α} {rest : List Request} {m : Mint α}
    (h : Directory.Steady e.directory answer calm) (hs : calm s.directory)
    (hsub : rest ⊆ requests) :
    settled e s.rules s.cache now (batchFound e now rest s).1 rest m
      = settled e s.rules s.cache now (batchFound e now requests s).1 rest m := by
  refine settled_congr fun request hmem sid hawaits => ?_
  rw [answerFor_batchFound h hs hmem hawaits, answerFor_batchFound h hs (hsub hmem) hawaits]

/-! ### Unix ids -/

/-- Lookups that say the same make the rules say the same. -/
theorem Rule.mapToWindows_congr {σ : Type} {table : RuleTable} {mappingDomain : Option String}
    {unixName : String} {kind : IdKind}
    {resolve : String → String → σ → Except Failure NamedAccount × σ} (Inv : σ → Prop)
    (hinv : ∀ {name domain s}, Inv s → Inv (resolve name domain s).2)
    (hsame : ∀ {name domain s t}, Inv s → Inv t →
      (resolve name domain s).1 = (resolve name domain t).1) {s t : σ} (hs : Inv s)
    (ht : Inv t) :
    (mapToWindows table mappingDomain unixName kind resolve s).1
      = (mapToWindows table mappingDomain unixName kind resolve t).1 := by
  unfold mapToWindows
  induction table.windowsCandidates kind.isUser unixName generalizing s t with
  | nil => rfl
  | cons candidate rest ih =>
      unfold tryWindows
      split
      · rfl
      simp only
      split
      · rfl
      · next domain _ =>
          rw [hsame hs ht]
          split
          · rfl
          · split
            · exact ih (hinv hs) (hinv ht)
            · rfl

namespace IdToSid

variable {cache : Cache} {rules : RuleTable}

/-- A name is resolved alike in any calm state. -/
theorem resolveName_congr (h : Directory.Steady e.directory answer calm) {name domain : String}
    {s t : δ} (hs : calm s) (ht : calm t) :
    (resolveName e.directory cache now name domain s).1
      = (resolveName e.directory cache now name domain t).1 := by
  obtain ⟨s', hlookup, -⟩ := h.lookupOne (.ofName name domain) hs
  obtain ⟨t', hlookup', -⟩ := h.lookupOne (.ofName name domain) ht
  unfold resolveName
  split
  · rfl
  · split
    · rfl
    · rw [hlookup, hlookup']
    · rfl

theorem calm_resolveName (h : Directory.Steady e.directory answer calm) {name domain : String}
    {s : δ} (hs : calm s) : calm (resolveName e.directory cache now name domain s).2 := by
  obtain ⟨s', hlookup, hs'⟩ := h.lookupOne (.ofName name domain) hs
  unfold resolveName
  split
  · exact hs
  · split
    · exact hs
    · rw [hlookup]
      exact hs'
    · exact hs

theorem applyRules_congr (h : Directory.Steady e.directory answer calm) {id : UnixId}
    {name : String} {s t : δ} (hs : calm s) (ht : calm t) :
    (applyRules e cache rules now id name s).1 = (applyRules e cache rules now id name t).1 := by
  have hcalm : ∀ {name domain : String} {s : δ}, calm s →
      calm (resolveName e.directory cache now name domain s).2 := fun hs => calm_resolveName h hs
  have hname : ∀ {name domain : String} {s t : δ}, calm s → calm t →
      (resolveName e.directory cache now name domain s).1
        = (resolveName e.directory cache now name domain t).1 :=
    fun hs ht => resolveName_congr h hs ht
  have hsame : (Rule.mapToWindows rules e.settings.domain? name id.kind
        (resolveName e.directory cache now) s).1
      = (Rule.mapToWindows rules e.settings.domain? name id.kind
        (resolveName e.directory cache now) t).1 := by
    apply Rule.mapToWindows_congr calm
    · exact hcalm
    · exact hname
    · exact hs
    · exact ht
  unfold applyRules
  rcases hfirst : Rule.mapToWindows rules e.settings.domain? name id.kind
    (resolveName e.directory cache now) s with ⟨found, s'⟩
  rcases hsecond : Rule.mapToWindows rules e.settings.domain? name id.kind
    (resolveName e.directory cache now) t with ⟨found', t'⟩
  rw [hfirst, hsecond] at hsame
  obtain rfl : found = found' := hsame
  cases found with
  | ok found => rfl
  | error failure => cases failure <;> rfl

/-- A unix id is settled alike in any calm state. -/
theorem resolve_congr (h : Directory.Steady e.directory answer calm) {s t : δ} (hs : calm s)
    (ht : calm t) :
    (resolve e cache rules now request s).1 = (resolve e cache rules now request t).1 := by
  unfold resolve settleUncached
  repeat' split
  all_goals first | rfl | exact applyRules_congr h hs ht

theorem calm_resolve (h : Directory.Steady e.directory answer calm) {s : δ} (hs : calm s) :
    calm (resolve e cache rules now request s).2 := by
  refine resolve_inv e cache rules now request calm (fun {query s} hs => ?_) hs
  obtain ⟨s', hlookup, hs'⟩ := h.lookupOne query hs
  rw [hlookup]
  exact hs'

end IdToSid
end IdentityMap

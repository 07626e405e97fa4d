/-
What passes between a lookup and its directory.

Any client can be replaced by one that does the same and writes down every step, with what
came of it.  A lookup looks at nothing but the answers, so nothing else changes, and the
record says what was sent and in which order, whatever the directory does.

This is about one batch.  How a lookup goes on after one is another matter.
-/
import IdentityMap.Directory.Lookup

namespace IdentityMap.Directory

variable {δ : Type}

/-! ### The record -/

/-- A step of a batch, with what came of it. -/
inductive Event where
  | start (count : Nat) (answer : Except Fault Unit)
  | enqueue (query : Query) (answer : Except Fault Unit)
  | finish (answer : Except Fault (List Outcome))

namespace Event

def isStart : Event → Bool
  | .start _ _ => true
  | .enqueue _ _ | .finish _ => false

/-- The query that is sent. -/
def query? : Event → Option Query
  | .enqueue query _ => some query
  | .start _ _ | .finish _ => none

/-- The faults that are heard of. -/
def faults : Event → List Fault
  | .start _ (.error fault) | .enqueue _ (.error fault) | .finish (.error fault) => [fault]
  | .start _ (.ok _) | .enqueue _ (.ok _) => []
  | .finish (.ok outcomes) => outcomes.filterMap fun
    | .error fault => some fault
    | .ok _ => none

end Event

/-- The state of a directory, and the steps so far, in order. -/
structure Recorded (δ : Type) where
  state : δ
  log : List Event := []

/-- Does a step and writes it down. -/
def Recorded.step {β : Type} (event : β → Event) (act : δ → β × δ) (w : Recorded δ) :
    β × Recorded δ :=
  let (answer, state) := act w.state
  (answer, { state, log := w.log ++ [event answer] })

/-- The client with a record of its steps. -/
def Client.recorded (client : Client δ) : Client (Recorded δ) where
  start count := Recorded.step (.start count) (client.start count)
  enqueue sent query := Recorded.step (.enqueue query) (client.enqueue sent query)
  finish sent := Recorded.step .finish (client.finish sent)

/-! ### One batch -/

/-- The queries are added to a batch without a fault. -/
def accepted (queries : List Query) : List Event :=
  queries.map fun query => .enqueue query (.ok ())

/-- The steps of one batch with these queries, and what comes of it.  The queries are sent in
order, up to the first fault. -/
inductive Batch (queries : List Query) : List Event → Except Fault (List Outcome) → Prop
  | notStarted (fault : Fault) :
      Batch queries [.start queries.length (.error fault)] (.error fault)
  | notSent {sent rest : List Query} {query : Query} (fault : Fault)
      (h : queries = sent ++ query :: rest) :
      Batch queries
        (.start queries.length (.ok ()) :: (accepted sent ++ [.enqueue query (.error fault)]))
        (.error fault)
  | notFinished (fault : Fault) :
      Batch queries
        (.start queries.length (.ok ()) :: (accepted queries ++ [.finish (.error fault)]))
        (.error fault)
  | miscounted (outcomes : List Outcome) (h : outcomes.length ≠ queries.length) :
      Batch queries
        (.start queries.length (.ok ()) :: (accepted queries ++ [.finish (.ok outcomes)]))
        (.error (.malformed (Nat.repr outcomes.length ++ " results for " ++
          Nat.repr queries.length ++ " queries")))
  | finished (outcomes : List Outcome) (h : outcomes.length = queries.length) :
      Batch queries
        (.start queries.length (.ok ()) :: (accepted queries ++ [.finish (.ok outcomes)]))
        (.ok outcomes)

namespace Batch

variable {queries : List Query} {events : List Event} {verdict : Except Fault (List Outcome)}

/-- A batch that succeeds has one outcome for each query. -/
theorem length_eq (h : Batch queries events verdict) (outcomes : List Outcome)
    (hverdict : verdict = .ok outcomes) : outcomes.length = queries.length := by
  subst hverdict
  cases h with
  | finished _ hlength => exact hlength

theorem countP_isStart_steps (count : Nat) (answer : Except Fault Unit) (sent : List Query)
    {last : Event} (hlast : last.isStart = false) :
    (Event.start count answer :: (accepted sent ++ [last])).countP Event.isStart = 1 := by
  have haccepted : (accepted sent).countP Event.isStart = 0 := by
    rw [List.countP_eq_zero]
    intro event hevent
    obtain ⟨query, -, rfl⟩ := List.mem_map.mp hevent
    exact Bool.false_ne_true
  rw [List.countP_cons_of_pos rfl, List.countP_append, haccepted, List.countP_singleton, hlast]
  rfl

/-- A batch is started once. -/
theorem countP_isStart (h : Batch queries events verdict) : events.countP Event.isStart = 1 := by
  cases h with
  | notStarted fault => rfl
  | notSent fault _ => exact countP_isStart_steps _ _ _ rfl
  | notFinished fault => exact countP_isStart_steps _ _ _ rfl
  | miscounted outcomes _ => exact countP_isStart_steps _ _ _ rfl
  | finished outcomes _ => exact countP_isStart_steps _ _ _ rfl

theorem filterMap_query?_steps (count : Nat) (answer : Except Fault Unit) (sent : List Query)
    (last : Event) :
    (Event.start count answer :: (accepted sent ++ [last])).filterMap Event.query?
      = sent ++ last.query?.toList := by
  have haccepted : (accepted sent).filterMap Event.query? = sent := by
    rw [accepted, List.filterMap_map]
    exact List.filterMap_some
  rw [List.filterMap_cons_none rfl, List.filterMap_append, haccepted]
  cases last <;> rfl

/-- What is sent is a first part of the queries. -/
theorem isPrefix_sent (h : Batch queries events verdict) :
    events.filterMap Event.query? <+: queries := by
  cases h with
  | notStarted fault => exact List.nil_prefix
  | @notSent sent rest query fault hqueries =>
      rw [filterMap_query?_steps]
      exact ⟨rest, by simp [Event.query?, hqueries]⟩
  | notFinished fault =>
      rw [filterMap_query?_steps]
      exact ⟨[], by simp [Event.query?]⟩
  | miscounted outcomes _ =>
      rw [filterMap_query?_steps]
      exact ⟨[], by simp [Event.query?]⟩
  | finished outcomes _ =>
      rw [filterMap_query?_steps]
      exact ⟨[], by simp [Event.query?]⟩

/-- A batch that fails had a fault in one of its steps, or the wrong number of outcomes. -/
theorem mem_faults {fault : Fault} (h : Batch queries events (.error fault))
    (hfault : fault.isTransient = true) : ∃ event ∈ events, fault ∈ event.faults := by
  cases h with
  | notStarted _ => exact ⟨_, List.mem_cons_self .., List.mem_cons_self ..⟩
  | notSent _ _ =>
      exact ⟨_, List.mem_cons_of_mem _ List.mem_concat_self, List.mem_cons_self ..⟩
  | notFinished _ =>
      exact ⟨_, List.mem_cons_of_mem _ List.mem_concat_self, List.mem_cons_self ..⟩
  | miscounted _ _ => cases hfault

/-- The faults of queries are heard of when the batch is finished. -/
theorem mem_faults_of_mem {outcomes : List Outcome} {fault : Fault}
    (h : Batch queries events (.ok outcomes)) (hmem : .error fault ∈ outcomes) :
    ∃ event ∈ events, fault ∈ event.faults := by
  cases h with
  | finished _ _ =>
      exact ⟨_, List.mem_cons_of_mem _ List.mem_concat_self,
        List.mem_filterMap.mpr ⟨_, hmem, rfl⟩⟩

end Batch

/-! ### The recorded client does what the client does -/

/-- Adding queries, recorded: all of them are accepted, or all before the one with a fault. -/
theorem enqueueAll_recorded (client : Client δ) (sent queries : List Query) (w : Recorded δ) :
    ∃ answer state events,
      enqueueAll client sent queries w.state = (answer, state) ∧
      enqueueAll client.recorded sent queries w = (answer, { state, log := w.log ++ events }) ∧
      ((answer = .ok () ∧ events = accepted queries) ∨
        ∃ added query rest fault, queries = added ++ query :: rest ∧ answer = .error fault ∧
          events = accepted added ++ [.enqueue query (.error fault)]) := by
  induction queries generalizing sent w with
  | nil =>
      exact ⟨.ok (), w.state, [], rfl, by rw [List.append_nil]; rfl, Or.inl ⟨rfl, rfl⟩⟩
  | cons query rest ih =>
      rcases hadd : client.enqueue sent query w.state with ⟨fault | ⟨⟩, state⟩
      · refine ⟨.error fault, state, [.enqueue query (.error fault)], ?_, ?_,
          Or.inr ⟨[], query, rest, fault, rfl, rfl, rfl⟩⟩
        · simp only [enqueueAll, hadd]
        · simp only [enqueueAll, Client.recorded, Recorded.step, hadd]
      · obtain ⟨answer, state', events, hrun, hrecorded, hevents⟩ :=
          ih (sent ++ [query]) { state, log := w.log ++ [.enqueue query (.ok ())] }
        refine ⟨answer, state', .enqueue query (.ok ()) :: events, ?_, ?_, ?_⟩
        · simp only [enqueueAll, hadd]
          exact hrun
        · simp only [enqueueAll, Client.recorded, Recorded.step, hadd]
          exact hrecorded.trans (by simp)
        · rcases hevents with ⟨hok, rfl⟩ | ⟨added, other, later, fault, rfl, herror, rfl⟩
          · exact Or.inl ⟨hok, rfl⟩
          · exact Or.inr ⟨query :: added, other, later, fault, rfl, herror, rfl⟩

/-- **A recorded batch is the batch, and its steps are those of one batch.** -/
theorem runBatch_recorded (client : Client δ) (queries : List Query) (w : Recorded δ) :
    ∃ verdict state events,
      runBatch client queries w.state = (verdict, state) ∧
      runBatch client.recorded queries w = (verdict, { state, log := w.log ++ events }) ∧
      Batch queries events verdict := by
  rcases hstart : client.start queries.length w.state with ⟨fault | ⟨⟩, s⟩
  · refine ⟨.error fault, s, _, ?_, ?_, .notStarted fault⟩
    · simp only [runBatch, hstart]
    · simp only [runBatch, Client.recorded, Recorded.step, hstart]
  have hbegun : client.recorded.start queries.length w
      = (.ok (), { state := s, log := w.log ++ [.start queries.length (.ok ())] }) := by
    simp only [Client.recorded, Recorded.step, hstart]
  obtain ⟨answer, s', events, hrun, hrecorded, hevents⟩ := enqueueAll_recorded client [] queries
    { state := s, log := w.log ++ [.start queries.length (.ok ())] }
  rcases hevents with ⟨rfl, rfl⟩ | ⟨added, query, rest, fault, hqueries, rfl, rfl⟩
  · rcases hfinish : client.finish queries s' with ⟨fault | outcomes, s''⟩
    · refine ⟨.error fault, s'', _, ?_, ?_, .notFinished fault⟩
      · simp only [runBatch, hstart, hrun, hfinish]
      · simp only [runBatch, hbegun, hrecorded]
        simp [Client.recorded, Recorded.step, hfinish]
    · by_cases hcount : outcomes.length = queries.length
      · refine ⟨.ok outcomes, s'', _, ?_, ?_, .finished outcomes hcount⟩
        · simp only [runBatch, hstart, hrun, hfinish, if_pos hcount]
        · simp only [runBatch, hbegun, hrecorded]
          simp [Client.recorded, Recorded.step, hfinish, hcount]
      · refine ⟨_, s'', _, ?_, ?_, .miscounted outcomes hcount⟩
        · simp only [runBatch, hstart, hrun, hfinish, if_neg hcount]
        · simp only [runBatch, hbegun, hrecorded]
          simp [Client.recorded, Recorded.step, hfinish, hcount]
  · refine ⟨.error fault, s', _, ?_, ?_, .notSent fault hqueries⟩
    · simp only [runBatch, hstart, hrun]
    · simp only [runBatch, hbegun, hrecorded]
      simp

end IdentityMap.Directory

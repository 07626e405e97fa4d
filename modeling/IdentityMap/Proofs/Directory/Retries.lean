/-
How often a lookup asks, and what it makes of the answers.

A lookup goes on in rounds, a batch in each, until nothing is open, a batch fails for good, or
three were started.  `Rounds` lists what may follow what, and everything else is read off it:
what is settled once is settled for good, and what is open in the end was sent every time.

The client may do as it likes in every step of every batch.
-/
import IdentityMap.Directory.Scripted
import IdentityMap.Proofs.Directory.Known
import IdentityMap.Proofs.Directory.Record

namespace IdentityMap.Directory

variable {δ : Type}

/-! ### Rounds -/

/-- The steps of a batch, and what came of it. -/
structure Round where
  events : List Event
  verdict : Except Fault (List Outcome)

/-- What is known after the rounds. -/
def latest (rounds : List Round) : Known :=
  rounds.foldl (fun known round => known.hear round.verdict) fun _ => none

theorem latest_concat (rounds : List Round) (round : Round) :
    latest (rounds ++ [round]) = (latest rounds).hear round.verdict := by
  rw [latest, List.foldl_append]
  rfl

/-- In the beginning every query is open. -/
theorem openQueries_latest_nil (queries : List Query) :
    (latest []).openQueries queries = queries := by
  have hall : queries.zipIdx.filter (fun p => (latest []).isOpen p.2) = queries.zipIdx :=
    List.filter_eq_self.mpr fun _ _ => rfl
  rw [Known.openQueries, hall, List.zipIdx_map_fst]

/-- What is settled stays as it is. -/
theorem latest_append (before rounds : List Round) {k : Nat}
    (h : (latest before).isOpen k = false) :
    latest (before ++ rounds) k = latest before k := by
  induction rounds generalizing before with
  | nil => rw [List.append_nil]
  | cons round rest ih =>
      have hheard : latest (before ++ [round]) k = latest before k := by
        rw [latest_concat, Known.hear_of_not_isOpen h]
      have hclosed : (latest (before ++ [round])).isOpen k = false := by
        rw [Known.isOpen, hheard]
        exact h
      rw [List.append_cons, ih _ hclosed, hheard]

/-- A batch without a transient fault leaves nothing open. -/
theorem Batch.not_isOpen_hear {known : Known} {queries : List Query} {events : List Event}
    {verdict : Except Fault (List Outcome)} {k : Nat}
    (h : Batch (known.openQueries queries) events verdict)
    (hcalm : ∀ event ∈ events, ∀ fault ∈ event.faults, fault.isTransient = false)
    (hk : k < queries.length) : (known.hear verdict).isOpen k = false := by
  cases hopen : known.isOpen k with
  | false => rwa [Known.isOpen, Known.hear_of_not_isOpen hopen]
  | true =>
      obtain ⟨outcome, houtcome⟩ := Known.exists_hear h.length_eq hk
      rw [Known.isOpen, houtcome]
      cases outcome with
      | ok entry => rfl
      | error fault =>
          show fault.isTransient = false
          cases htransient : fault.isTransient with
          | false => rfl
          | true =>
              have hheard : ∃ event ∈ events, fault ∈ event.faults := by
                cases verdict with
                | error reason =>
                    rw [Known.hear_error hopen] at houtcome
                    cases houtcome
                    exact h.mem_faults htransient
                | ok outcomes =>
                    rw [Known.hear_ok hopen] at houtcome
                    exact h.mem_faults_of_mem (List.mem_of_getElem? houtcome)
              obtain ⟨event, hevent, hfault⟩ := hheard
              rw [← htransient, hcalm event hevent fault hfault]

/-- The rounds that follow others when so many attempts are left. -/
inductive Rounds (queries : List Query) : Nat → List Round → List Round → Prop
  | usedUp (before : List Round) : Rounds queries 0 before []
  | settled {n : Nat} {before : List Round} (h : (latest before).openQueries queries = []) :
      Rounds queries (n + 1) before []
  | failed {n : Nat} {before : List Round} {round : Round} {fault : Fault}
      (hopen : (latest before).openQueries queries ≠ [])
      (hbatch : Batch ((latest before).openQueries queries) round.events round.verdict)
      (hverdict : round.verdict = .error fault) (hfault : fault.isTransient = false) :
      Rounds queries (n + 1) before [round]
  | again {n : Nat} {before : List Round} {round : Round} {rest : List Round}
      (hopen : (latest before).openQueries queries ≠ [])
      (hbatch : Batch ((latest before).openQueries queries) round.events round.verdict)
      (hverdict : ∀ fault, round.verdict = .error fault → fault.isTransient = true)
      (hrest : Rounds queries n (before ++ [round]) rest) :
      Rounds queries (n + 1) before (round :: rest)

/-- The attempts of a lookup are such rounds, by induction on the attempts that are left. -/
theorem attempt_recorded (client : Client δ) (queries : List Query) (n : Nat)
    (before : List Round) (w : Recorded δ) :
    ∃ rounds state, Rounds queries n before rounds ∧
      attempt client n ((latest before).items queries) w.state
        = ((latest (before ++ rounds)).items queries, state) ∧
      attempt client.recorded n ((latest before).items queries) w
        = ((latest (before ++ rounds)).items queries,
          { state, log := w.log ++ rounds.flatMap (·.events) }) := by
  induction n generalizing before w with
  | zero => exact ⟨[], w.state, .usedUp before, by rw [List.append_nil]; rfl, by simp [attempt]⟩
  | succ n ih =>
      by_cases hopen : (latest before).openQueries queries = []
      · refine ⟨[], w.state, .settled hopen, ?_, ?_⟩
        · rw [attempt, Known.pending_items, hopen, List.append_nil]
          rfl
        · rw [attempt, Known.pending_items, hopen]
          simp
      have hempty : ((latest before).openQueries queries).isEmpty = false :=
        List.isEmpty_eq_false_iff.mpr hopen
      obtain ⟨verdict, state, events, hrun, hrecorded, hbatch⟩ :=
        runBatch_recorded client ((latest before).openQueries queries) w
      let round : Round := { events, verdict }
      -- What the items are after the batch is what is known after the round.
      have hitems : (latest (before ++ [round])).items queries
          = ((latest before).hear verdict).items queries := by
        rw [latest_concat]
      obtain ⟨rounds, state', hrounds, hlater, hlater'⟩ :=
        ih (before ++ [round]) { state, log := w.log ++ events }
      rw [← List.append_cons, hitems] at hlater hlater'
      simp only [attempt, Known.pending_items, hempty, Bool.false_eq_true, if_false, hrun, hrecorded]
      cases verdict with
      | ok outcomes =>
          simp only [Known.settle_items _ (hbatch.length_eq outcomes rfl)]
          refine ⟨round :: rounds, state', .again hopen hbatch ?_ hrounds, hlater, ?_⟩
          · intro fault hfault
            cases hfault
          · rw [hlater', List.flatMap_cons, List.append_assoc]
      | error fault =>
          simp only [Known.failPending_items]
          cases hfault : fault.isTransient with
          | true =>
              refine ⟨round :: rounds, state', .again hopen hbatch ?_ hrounds, hlater, ?_⟩
              · intro other hother
                cases hother
                exact hfault
              · simp only [if_true]
                rw [hlater', List.flatMap_cons, List.append_assoc]
          | false =>
              refine ⟨[round], state, .failed hopen hbatch rfl hfault, ?_, ?_⟩
              · rw [hitems]
                rfl
              · rw [hitems]
                simp [round]

/-- A lookup starts with nothing known and three attempts. -/
theorem lookup_recorded (client : Client δ) (queries : List Query) (s : δ) :
    ∃ rounds state, Rounds queries 3 [] rounds ∧
      lookup client queries s = (((latest rounds).items queries).map (·.answer), state) ∧
      lookup client.recorded queries { state := s }
        = (((latest rounds).items queries).map (·.answer),
          { state, log := rounds.flatMap (·.events) }) := by
  have hstart : queries.map (fun query => (⟨query, none⟩ : Item))
      = (latest []).items queries := by
    conv => lhs; rw [← List.zipIdx_map_fst 0 queries, List.map_map]
    rfl
  obtain ⟨rounds, state, hrounds, hrun, hrecorded⟩ :=
    attempt_recorded client queries 3 [] { state := s }
  rw [List.nil_append] at hrun hrecorded
  refine ⟨rounds, state, hrounds, ?_, ?_⟩
  · simp only [lookup, hstart, maxAttempts, hrun]
  · simp only [lookup, hstart, maxAttempts, hrecorded, List.nil_append]

namespace Rounds

variable {queries : List Query} {n k : Nat} {before rounds : List Round}

theorem length_le (h : Rounds queries n before rounds) : rounds.length ≤ n := by
  induction h with
  | usedUp before => exact Nat.le_refl 0
  | settled _ => exact Nat.zero_le _
  | failed _ _ _ _ => exact Nat.succ_le_succ (Nat.zero_le _)
  | again _ _ _ _ ih => exact Nat.succ_le_succ ih

/-- Each round is a batch of what is open by then. -/
theorem batch (h : Rounds queries n before rounds) {i : Nat} {round : Round}
    (hround : rounds[i]? = some round) :
    (latest (before ++ rounds.take i)).openQueries queries ≠ [] ∧
      Batch ((latest (before ++ rounds.take i)).openQueries queries) round.events
        round.verdict := by
  induction h generalizing i with
  | usedUp before => cases hround
  | settled _ => cases hround
  | @failed n before first fault hopen hbatch _ _ =>
      obtain rfl : i = 0 := by
        have := (List.getElem?_eq_some_iff.mp hround).1
        simpa using this
      cases hround
      rw [List.take_zero, List.append_nil]
      exact ⟨hopen, hbatch⟩
  | @again n before first rest hopen hbatch _ _ ih =>
      cases i with
      | zero =>
          cases hround
          rw [List.take_zero, List.append_nil]
          exact ⟨hopen, hbatch⟩
      | succ i =>
          rw [List.take_succ_cons, List.append_cons]
          exact ih hround

/-- Only the last batch may fail for good. -/
theorem isTransient_of_mem_dropLast (h : Rounds queries n before rounds) :
    ∀ round ∈ rounds.dropLast, ∀ fault, round.verdict = .error fault →
      fault.isTransient = true := by
  induction h with
  | usedUp before => intro round hround; cases hround
  | settled _ => intro round hround; cases hround
  | failed _ _ _ _ => intro round hround; cases hround
  | @again n before first rest _ _ hverdict _ ih =>
      intro round hround
      cases rest with
      | nil => cases hround
      | cons second rest =>
          rcases List.mem_cons.mp hround with rfl | hlater
          · exact hverdict
          · exact ih round hlater

/-- What is open in the end was tried as often as possible. -/
theorem length_eq (h : Rounds queries n before rounds) (hk : k < queries.length)
    (hopen : (latest (before ++ rounds)).isOpen k = true) : rounds.length = n := by
  induction h with
  | usedUp before => rfl
  | @settled n before hnone =>
      rw [List.append_nil, Known.not_isOpen_of_openQueries_eq_nil hnone hk] at hopen
      cases hopen
  | @failed n before round fault _ _ hverdict hfault =>
      rw [latest_concat] at hopen
      cases hbefore : (latest before).isOpen k with
      | false =>
          rw [Known.isOpen, Known.hear_of_not_isOpen hbefore] at hopen
          exact absurd hopen (Bool.eq_false_iff.mp hbefore)
      | true =>
          rw [Known.isOpen, hverdict, Known.hear_error hbefore] at hopen
          exact absurd hopen (Bool.eq_false_iff.mp hfault)
  | again _ _ _ _ ih =>
      rw [List.append_cons] at hopen
      exact congrArg Nat.succ (ih hopen)

/-- Something is known of every place, once there was a chance to hear of it. -/
theorem exists_latest (h : Rounds queries n before rounds) (hk : k < queries.length)
    (hchance : n ≠ 0 ∨ ∃ outcome, latest before k = some outcome) :
    ∃ outcome, latest (before ++ rounds) k = some outcome := by
  have hheard : ∀ {before : List Round} {round : Round},
      Batch ((latest before).openQueries queries) round.events round.verdict →
      ∃ outcome, latest (before ++ [round]) k = some outcome := by
    intro before round hbatch
    rw [latest_concat]
    exact Known.exists_hear hbatch.length_eq hk
  induction h with
  | usedUp before =>
      rw [List.append_nil]
      exact hchance.resolve_left fun hzero => hzero rfl
  | @settled n before hnone =>
      rw [List.append_nil]
      exact Known.exists_of_not_isOpen (Known.not_isOpen_of_openQueries_eq_nil hnone hk)
  | failed _ hbatch _ _ => exact hheard hbatch
  | again _ hbatch _ _ ih =>
      rw [List.append_cons]
      exact ih (Or.inr (hheard hbatch))

/-- Each round starts one batch. -/
theorem countP_isStart (h : Rounds queries n before rounds) :
    (rounds.flatMap (·.events)).countP Event.isStart = rounds.length := by
  induction h with
  | usedUp before => rfl
  | settled _ => rfl
  | failed _ hbatch _ _ =>
      rw [List.flatMap_cons, List.countP_append, hbatch.countP_isStart]
      rfl
  | again _ hbatch _ _ ih =>
      rw [List.flatMap_cons, List.countP_append, hbatch.countP_isStart, ih, List.length_cons,
        Nat.add_comm]

/-- In each batch some of the queries are sent, in order. -/
theorem sent_sublist (h : Rounds queries n before rounds) :
    ∀ round ∈ rounds, (round.events.filterMap Event.query?).Sublist queries := by
  intro round hround
  obtain ⟨i, hi⟩ := List.mem_iff_getElem?.mp hround
  exact (h.batch hi).2.isPrefix_sent.sublist.trans (Known.openQueries_sublist _ _)

/-- If there are queries, there is a batch. -/
theorem ne_nil (h : Rounds queries (n + 1) [] rounds) (hne : queries ≠ []) : rounds ≠ [] := by
  rintro rfl
  cases h with
  | settled hnone =>
      rw [openQueries_latest_nil] at hnone
      exact hne hnone

/-- One batch is enough if no fault is transient. -/
theorem length_eq_one (h : Rounds queries (n + 1) [] rounds) (hne : queries ≠ [])
    (hcalm : ∀ round ∈ rounds, ∀ event ∈ round.events, ∀ fault ∈ event.faults,
      fault.isTransient = false) : rounds.length = 1 := by
  cases h with
  | settled hnone =>
      rw [openQueries_latest_nil] at hnone
      exact absurd hnone hne
  | failed _ _ _ _ => rfl
  | @again _ _ round rest _ hbatch _ hrest =>
      have hfirst : latest [round] = (latest []).hear round.verdict := latest_concat [] round
      have hnone : (latest [round]).openQueries queries = [] := by
        refine Known.openQueries_eq_nil fun k hk => ?_
        rw [hfirst]
        exact hbatch.not_isOpen_hear (hcalm round (List.mem_cons_self ..)) hk
      rw [List.nil_append] at hrest
      cases hrest with
      | usedUp _ => rfl
      | settled _ => rfl
      | failed hopen' _ _ _ => exact absurd hnone hopen'
      | again hopen' _ _ _ => exact absurd hnone hopen'

end Rounds

/-! ### Lookups -/

/-- How the rounds of a lookup and its answers hang together. -/
structure Retries (queries : List Query) (rounds : List Round)
    (answers : List (Except Failure Entry)) : Prop where
  /-- Each batch holds the queries that are open by then, and there is no batch without any. -/
  batch : ∀ n round, rounds[n]? = some round →
    (latest (rounds.take n)).openQueries queries ≠ [] ∧
      Batch ((latest (rounds.take n)).openQueries queries) round.events round.verdict
  atMost : rounds.length ≤ 3
  /-- There is no batch after one that failed for good. -/
  ends : ∀ round ∈ rounds.dropLast, ∀ fault, round.verdict = .error fault →
    fault.isTransient = true
  /-- What is settled stays as it is. -/
  settled : ∀ n k, (latest (rounds.take n)).isOpen k = false →
    latest rounds k = latest (rounds.take n) k
  /-- What is open in the end was sent three times. -/
  exhausted : ∀ k < queries.length, (latest rounds).isOpen k = true → rounds.length = 3
  length_eq : answers.length = queries.length
  /-- The answer for a query is what was last said of it. -/
  answer : ∀ k < queries.length, ∃ outcome, latest rounds k = some outcome ∧
    answers[k]? = some (outcome.mapError Fault.failure)

theorem Rounds.retries {queries : List Query} {rounds : List Round}
    (h : Rounds queries 3 [] rounds) :
    Retries queries rounds (((latest rounds).items queries).map (·.answer)) where
  batch _ _ hround := h.batch hround
  atMost := h.length_le
  ends := h.isTransient_of_mem_dropLast
  settled n k hsettled := by
    have happend := latest_append (rounds.take n) (rounds.drop n) hsettled
    rwa [List.take_append_drop] at happend
  exhausted _ hk hopen := h.length_eq hk hopen
  length_eq := by rw [List.length_map, Known.items, List.length_map, List.length_zipIdx]
  answer k hk := by
    obtain ⟨outcome, houtcome⟩ := h.exists_latest hk (Or.inl (Nat.succ_ne_zero 2))
    rw [List.nil_append] at houtcome
    refine ⟨outcome, houtcome, ?_⟩
    have hitem : ((latest rounds).items queries)[k]?
        = some (Item.told { query := queries[k], outcome := none } outcome) := by
      rw [Known.items, List.getElem?_map, List.getElem?_zipIdx, List.getElem?_eq_getElem hk,
        Nat.zero_add]
      exact congrArg (fun known => some (Item.mk queries[k] known)) houtcome
    rw [List.getElem?_map, hitem, Option.map_some, answer_told]

/--
**Every query is answered with what was last said of it, and is sent again only as long as that
is a transient fault.**

This is what the record of a lookup says, and the lookup itself does the same.  The client may
do anything.
-/
theorem lookup_in_rounds (client : Client δ) (queries : List Query) (s : δ) :
    ∃ rounds : List Round,
      lookup client.recorded queries { state := s }
        = ((lookup client queries s).1,
          { state := (lookup client queries s).2, log := rounds.flatMap (·.events) }) ∧
      (rounds.flatMap (·.events)).countP Event.isStart = rounds.length ∧
      (queries = [] → rounds = []) ∧
      Retries queries rounds (lookup client queries s).1 := by
  obtain ⟨rounds, state, hrounds, hrun, hrecorded⟩ := lookup_recorded client queries s
  have hretries := hrounds.retries
  rw [hrun, hrecorded]
  refine ⟨rounds, rfl, hrounds.countP_isStart, ?_, hretries⟩
  rintro rfl
  cases rounds with
  | nil => rfl
  | cons round rest => exact absurd rfl (hretries.batch 0 round rfl).1

/-- A query that has its entry is not sent again with the one that has not. -/
example :
    let alice : Entry :=
      { sid := { base := "S-1-5-21-7", rid := 1104 }, name := "alice", domain := "EXAMPLE"
        type := .user }
    let script : Scripted :=
      { acts := [{ outcomes := [.ok alice, .error (.transient "busy")] }, {}] }
    let queries : List Query := [.ofSid alice.sid, .ofName "bob" "EXAMPLE"]
    let heard := lookup Scripted.client.recorded queries { state := script }
    heard.1 = [.ok alice, .error .notFound] ∧
      heard.2.log.filterMap Event.query? = queries ++ [.ofName "bob" "EXAMPLE"] :=
  ⟨rfl, rfl⟩

end IdentityMap.Directory

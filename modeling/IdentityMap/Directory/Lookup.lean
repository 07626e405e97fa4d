/-
Looking up a list of queries, with retries.

A batch that fails for the moment is tried again, three times in all, and each time only
with the queries that have no outcome yet or a transient one.  A batch that fails for
good ends the matter for all of them.  Every query gets exactly one answer.
-/
import IdentityMap.Directory.Basic

namespace IdentityMap.Directory

/-- The first try and two more. -/
def maxAttempts : Nat := 3

/-- A query with the latest outcome it had, if it had one. -/
structure Item where
  query : Query
  outcome : Option Outcome
deriving Repr

namespace Item

/-- The query has to be sent, or sent again. -/
def isPending (item : Item) : Bool :=
  match item.outcome with
  | none => true
  | some (.ok _) => false
  | some (.error fault) => fault.isTransient

/-- The answer for the query, once no more batches are sent. -/
def answer (item : Item) : Except Failure Entry :=
  match item.outcome with
  | none => .error .notFound
  | some (.ok entry) => .ok entry
  | some (.error fault) => .error fault.failure

end Item

/-- Adds the queries to a batch that already holds `sent`, up to the first fault. -/
def enqueueAll {δ : Type} (client : Client δ) :
    List Query → List Query → δ → Except Fault Unit × δ
  | _, [], s => (.ok (), s)
  | sent, query :: rest, s =>
    match client.enqueue sent query s with
    | (.ok (), s) => enqueueAll client (sent ++ [query]) rest s
    | (.error fault, s) => (.error fault, s)

/-- One batch with these queries.  The client has to give one outcome per query. -/
def runBatch {δ : Type} (client : Client δ) (queries : List Query) (s : δ) :
    Except Fault (List Outcome) × δ :=
  match client.start queries.length s with
  | (.error fault, s) => (.error fault, s)
  | (.ok (), s) =>
    match enqueueAll client [] queries s with
    | (.error fault, s) => (.error fault, s)
    | (.ok (), s) =>
      match client.finish queries s with
      | (.error fault, s) => (.error fault, s)
      | (.ok outcomes, s) =>
        if outcomes.length = queries.length then (.ok outcomes, s)
        else
          (.error (.malformed (Nat.repr outcomes.length ++ " results for " ++
            Nat.repr queries.length ++ " queries")), s)

/-- The queries that have to be sent. -/
def pending (items : List Item) : List Query :=
  (items.filter (·.isPending)).map (·.query)

/-- Gives the outcomes to the pending items, in order. -/
def settle : List Outcome → List Item → List Item
  | _, [] => []
  | [], items => items
  | outcome :: outcomes, item :: items =>
    if item.isPending then { item with outcome := some outcome } :: settle outcomes items
    else item :: settle (outcome :: outcomes) items

/-- Gives one fault to every pending item. -/
def failPending (fault : Fault) (items : List Item) : List Item :=
  items.map fun item =>
    if item.isPending then { item with outcome := some (.error fault) } else item

/-- Sends batches until nothing is pending, a batch fails for good, or the attempts are
used up. -/
def attempt {δ : Type} (client : Client δ) : Nat → List Item → δ → List Item × δ
  | 0, items, s => (items, s)
  | attempts + 1, items, s =>
    if (pending items).isEmpty then (items, s)
    else
      match runBatch client (pending items) s with
      | (.ok outcomes, s) => attempt client attempts (settle outcomes items) s
      | (.error fault, s) =>
        if fault.isTransient then attempt client attempts (failPending fault items) s
        else (failPending fault items, s)

/-- The answers for the queries, in order. -/
def lookup {δ : Type} (client : Client δ) (queries : List Query) (s : δ) :
    List (Except Failure Entry) × δ :=
  let (items, s) := attempt client maxAttempts (queries.map fun query => ⟨query, none⟩) s
  (items.map (·.answer), s)

/-- The entries of several SIDs, in one round. -/
def lookupSids {δ : Type} (client : Client δ) (sids : List Sid) (s : δ) :
    List (Except Failure Entry) × δ :=
  lookup client (sids.map .ofSid) s

/-- The answer for one query. -/
def lookupOne {δ : Type} (client : Client δ) (query : Query) (s : δ) :
    Except Failure Entry × δ :=
  let (answers, s) := lookup client [query] s
  (answers.headD (.error .notFound), s)

end IdentityMap.Directory

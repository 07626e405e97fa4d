/-
A directory that plays a script: what each batch does is laid down in advance.

The k-th batch that is started plays the k-th act; beyond the last act everything works
and nothing is found.
-/
import IdentityMap.Directory.Fixed

namespace IdentityMap.Directory

/-- What one batch does. -/
structure Act where
  /-- The fault of starting the batch, if there is one. -/
  start : Option Fault := none
  /-- The fault of adding a query after so many others. -/
  enqueue : List (Option Fault) := []
  /-- The fault of finishing the batch, if there is one. -/
  finish : Option Fault := none
  /-- How many outcomes the batch gives; as many as there are queries if left out. -/
  count : Option Nat := none
  outcomes : List Outcome := []
deriving Repr

/-- The acts still to come, the one that plays, and the traffic so far. -/
structure Scripted where
  acts : List Act
  current : Act := {}
  traffic : Traffic := {}
deriving Repr

namespace Scripted

/-- Moves on to the next act. -/
def nextAct (s : Scripted) : Scripted :=
  { acts := s.acts.tail, current := s.acts.headD {}, traffic := s.traffic.countBatch }

/-- A step that fails with the given fault, if there is one. -/
def failing (fault : Option Fault) : Except Fault Unit :=
  match fault with
  | some fault => .error fault
  | none => .ok ()

def client : Client Scripted where
  start _ s :=
    let s := s.nextAct
    (failing s.current.start, s)
  enqueue sent _ s :=
    match (s.current.enqueue[sent.length]?).join with
    | some fault => (.error fault, s)
    | none => (.ok (), { s with traffic := s.traffic.countItem })
  finish sent s :=
    match s.current.finish with
    | some fault => (.error fault, s)
    | none =>
      let count := s.current.count.getD sent.length
      (.ok ((List.range count).map fun i =>
        (s.current.outcomes[i]?).getD (.error .notFound)), s)

end Scripted
end IdentityMap.Directory

/-
Waiting for a store that another process holds.

A call that finds the store busy is made again after a pause.  The pauses follow a
schedule, whose last entry repeats; contention itself is never an error.  Each time the
pauses so far exceed another multiple of a set time, a warning says for how long the call
has been waiting, in a number of 64 bits.

Pauses are whole milliseconds, while the time between two warnings may be any number of
nanoseconds.  Times are measured up to 2^64 seconds, and a call that would have to go on
beyond that is given up.  The pauses themselves are counted without bound, although a machine
word counts them where a call really waits.

Pauses and warnings are results here: nothing sleeps.
-/
namespace IdentityMap

/-- Milliseconds in nanoseconds. -/
def nanoseconds (time : Nat) : Nat :=
  time * 1000000

/-- The longest time that can be measured, in nanoseconds: one less than 2^64 seconds have. -/
def longestTime : Nat :=
  18446744073709551616000000000 - 1

/-- How to wait for one store. -/
structure BusyPolicy where
  /-- The pauses, in milliseconds. -/
  delays : List Nat
  /-- The milliseconds between two warnings. -/
  warnAfter : Nat
  /-- The nanoseconds on top of them. -/
  warnAfterRest : Nat := 0
deriving DecidableEq, Repr

namespace BusyPolicy

/-- The schedule of the mapping cache. -/
def cacheDelays : List Nat :=
  [1, 2, 5, 10, 15, 20, 25, 30, 35, 40, 50, 50, 60, 70, 80, 90, 100]

/-- The schedule of the rule store. -/
def ruleDelays : List Nat :=
  [5, 10, 15, 20, 30, 40, 55, 70, 100]

def forCache (warnAfter : Nat) : BusyPolicy :=
  { delays := cacheDelays, warnAfter }

def forRules (warnAfter : Nat) : BusyPolicy :=
  { delays := ruleDelays, warnAfter }

/-- The time between two warnings, in nanoseconds.  Zero turns them off. -/
def warnTime (policy : BusyPolicy) : Nat :=
  nanoseconds policy.warnAfter + policy.warnAfterRest

/-- The pause after so many pauses: the last one repeats, and without a schedule it is a
tenth of a second. -/
def delay (policy : BusyPolicy) (attempt : Nat) : Nat :=
  (policy.delays[attempt]?).getD (policy.delays.getLast?.getD 100)

end BusyPolicy

/-- What one call of an operation comes to. -/
inductive Attempt (β : Type) where
  /-- The store is busy or locked. -/
  | busy
  /-- Any other outcome, good or bad. -/
  | done (outcome : β)
deriving DecidableEq, Repr

/-- One pause of a call that waits. -/
structure Pause where
  length : Nat
  /-- How long the call had been waiting, if that was reported right before the pause. -/
  warning : Option Nat := none
deriving DecidableEq, Repr

/-- How long a call has been waiting. -/
structure Waiting where
  pauses : Nat := 0
  /-- The length of all pauses together, in milliseconds. -/
  total : Nat := 0
  warnings : Nat := 0
deriving DecidableEq, Repr

namespace Waiting

/-- The time that has to be exceeded for the next warning, in nanoseconds. -/
def threshold (policy : BusyPolicy) (w : Waiting) : Nat :=
  policy.warnTime * (w.warnings + 1)

/-- A warning is due. -/
def isOverdue (policy : BusyPolicy) (w : Waiting) : Bool :=
  policy.warnTime != 0 && w.threshold policy < nanoseconds w.total

/-- A time as a warning shows it: its last 64 bits. -/
def shown (time : Nat) : Nat :=
  time % 18446744073709551616

/-- What a busy call leads to: a warning if it is due, and then a pause. -/
def pause (policy : BusyPolicy) (w : Waiting) : Pause :=
  { length := policy.delay w.pauses
    warning := if w.isOverdue policy then some (shown w.total) else none }

/-- The waiting with one more pause. -/
def step (policy : BusyPolicy) (w : Waiting) : Waiting :=
  { pauses := w.pauses + 1
    total := w.total + policy.delay w.pauses
    warnings := if w.isOverdue policy then w.warnings + 1 else w.warnings }

/-- The time waited and the threshold of the next warning can both be measured. -/
def isMeasured (policy : BusyPolicy) (w : Waiting) : Bool :=
  nanoseconds w.total ≤ longestTime && w.threshold policy ≤ longestTime

end Waiting

/-- Makes calls until one is not busy.  The list holds what each call would come to; it
gives the first outcome that is not busy, and the pauses before it, the first one first.
A call that is busy for ever has none, nor has one that is given up. -/
def retryBusy {β : Type} (policy : BusyPolicy) :
    List (Attempt β) → Waiting → Option (β × List Pause)
  | [], _ => none
  | .done outcome :: _, _ => some (outcome, [])
  | .busy :: rest, w =>
    if (w.step policy).isMeasured policy then
      (retryBusy policy rest (w.step policy)).map fun (outcome, pauses) =>
        (outcome, w.pause policy :: pauses)
    else none

end IdentityMap

/-
When a cache row stops being valid.

Times are Unix seconds.  A row without a time, or with time 0, never expires.  The
largest time of 64 bits marks a row that must never expire.
-/
namespace IdentityMap

/-- The smallest and the largest time that can be stored. -/
def minTime : Int := -0x8000000000000000
def maxTime : Int := 0x7FFFFFFFFFFFFFFF

/-- Brings a time into the range that can be stored. -/
def clampTime (t : Int) : Int :=
  max minTime (min maxTime t)

/-- The last second before a row is stale, or that it never is. -/
inductive Expiry where
  | at (time : Int)
  | never
deriving DecidableEq, Repr

namespace Expiry

/-- The time that is written for a row that never expires. -/
def noExpiry : Int := maxTime

/-- `ttl` seconds from `now`.  The number of seconds is read as a signed word of 64
bits, so the upper half of its range lies in the past; the sum stays in range. -/
def after (now : Int) (ttl : Nat) : Expiry :=
  .at (clampTime (now + Int.bmod ttl 0x10000000000000000))

/-- The time written to the expiration column. -/
def column : Expiry → Int
  | .at time => time
  | .never => noExpiry

end Expiry

/-- A row with this expiration column is valid at `now`: it has no time, or a later one. -/
def isLive (expiration : Option Int) (now : Int) : Bool :=
  match expiration with
  | none => true
  | some time => time == 0 || now < time

/-- A row with this expiration column carries a time that is no later than `now`. -/
def isPast (expiration : Option Int) (now : Int) : Bool :=
  match expiration with
  | none => false
  | some time => time != 0 && time ≤ now

theorem isPast_eq_not_isLive (expiration : Option Int) (now : Int) :
    isPast expiration now = !isLive expiration now := by
  cases expiration with
  | none => rfl
  | some time =>
    simp only [isPast, isLive, Bool.not_or]
    congr 1
    rw [Bool.eq_iff_iff]
    simp

end IdentityMap

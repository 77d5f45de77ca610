import LiveWorld.Connection

/-!
# What a rate limiter promises

A limiter is asked at each of the readings of a list, in order.
-/

namespace LiveWorld.Spec

def second : Nat := 1000000000

/-- The limiter once it has been asked at each of the readings. -/
def asked (limiter : RateLimiter) (readings : List Nat) : RateLimiter :=
  readings.foldl (fun limiter now => (limiter.allow now).2) limiter

/-- The readings at which it said yes. -/
def allowedAt : RateLimiter → List Nat → List Nat
  | _, [] => []
  | limiter, now :: rest =>
      let (allowed, limiter) := limiter.allow now
      if allowed then now :: allowedAt limiter rest else allowedAt limiter rest

/-- How many of the readings are in `[start, stop)`. -/
def countWithin (start stop : Nat) (readings : List Nat) : Nat :=
  readings.countP fun now => decide (start ≤ now ∧ now < stop)

/-- A limiter that was made at `opened` allows no more than so many calls in any number of whole seconds, and refuses
nobody who has not used up the limit within the last second. -/
structure LimitsRate (limit : UInt32) (opened : Nat) (readings : List Nat) : Prop where
  bounded : ∀ start seconds, 1 ≤ seconds →
    countWithin start (start + seconds * second) (allowedAt (.new limit opened) readings) ≤ limit.toNat * (seconds + 1)
  deserved : ∀ earlier now later, readings = earlier ++ now :: later →
    ((asked (.new limit opened) earlier).allow now).1 = false →
    limit.toNat ≤ (allowedAt (.new limit opened) earlier).countP fun before => decide (now < before + second)

end LiveWorld.Spec

import Mathlib.Order.Basic

/-!
# The circuit breaker

An `Instant` is the number of nanoseconds since some fixed moment, and its readings are arguments. A method holds the
lock from its reading to its end, so each of them is one step.
-/

namespace LiveWorld

inductive BreakerState
  | Closed (consecutiveFailures : UInt32)
  | Open (openedAt : Nat)
  | HalfOpen
  deriving DecidableEq, Repr

structure CircuitBreaker where
  state : BreakerState
  failureThreshold : UInt32
  resetTimeout : Nat
  deriving DecidableEq, Repr

namespace CircuitBreaker

def new (failureThreshold : UInt32) (resetTimeout : Nat) : CircuitBreaker :=
  ⟨.Closed 0, failureThreshold, resetTimeout⟩

/-- Whether the call should be rejected. -/
def isOpen (self : CircuitBreaker) (now : Nat) : Bool × CircuitBreaker :=
  match self.state with
  | .Open openedAt =>
      -- `elapsed` is 0 for a moment that has not come yet
      if now - openedAt ≥ self.resetTimeout then (false, { self with state := .HalfOpen })
      else (true, self)
  | _ => (false, self)

def recordSuccess (self : CircuitBreaker) : CircuitBreaker := { self with state := .Closed 0 }

def recordFailure (self : CircuitBreaker) (now : Nat) : CircuitBreaker :=
  match self.state with
  | .Closed consecutiveFailures =>
      let n := consecutiveFailures + 1
      if n ≥ self.failureThreshold then { self with state := .Open now }
      else { self with state := .Closed n }
  | .HalfOpen => { self with state := .Open now }
  | .Open _ => self

end CircuitBreaker

end LiveWorld

import LiveWorld.CircuitBreaker
import LiveWorld.Lib.Transition
import Mathlib.Logic.Function.Basic

/-!
# Callers that share a breaker

Each caller asks `is_open`, and if it is let through it makes a call and reports how that went. Calls of different
callers overlap in any way.
-/

namespace LiveWorld.Spec
variable {ι : Type} [DecidableEq ι]

inductive BreakerMethod
  | isOpen
  | recordSuccess
  | recordFailure
  deriving DecidableEq, Repr

structure BreakerCall (ι : Type) where
  caller : ι
  method : BreakerMethod
  now : Nat
  deriving DecidableEq, Repr

def blocks : BreakerState → Bool
  | .Open _ => true
  | _ => false

/-- `openings` are the times at which the breaker became open, and `probe` is who made it half-open, until somebody
reports. -/
structure SharedBreaker (ι : Type) where
  breaker : CircuitBreaker
  calling : ι → Bool
  now : Nat
  openings : List Nat
  probe : Option ι

namespace SharedBreaker

def start (failureThreshold : UInt32) (resetTimeout : Nat) : SharedBreaker ι where
  breaker := .new failureThreshold resetTimeout
  calling := fun _ => false
  now := 0
  openings := []
  probe := none

def ask (s : SharedBreaker ι) (caller : ι) (now : Nat) : SharedBreaker ι :=
  let (rejected, breaker) := s.breaker.isOpen now
  { s with
    breaker
    calling := Function.update s.calling caller !rejected
    now
    probe := if breaker.state ≠ s.breaker.state then some caller else s.probe }

def report (s : SharedBreaker ι) (caller : ι) (now : Nat) (breaker : CircuitBreaker) : SharedBreaker ι where
  breaker := breaker
  calling := Function.update s.calling caller false
  now := now
  openings :=
    if blocks breaker.state && !blocks s.breaker.state then now :: s.openings else s.openings
  probe := none

def next (s : SharedBreaker ι) (call : BreakerCall ι) : Option (SharedBreaker ι) :=
  if call.now < s.now then none
  else
    match call.method, s.calling call.caller with
    | .isOpen, false => some (s.ask call.caller call.now)
    | .recordSuccess, true => some (s.report call.caller call.now s.breaker.recordSuccess)
    | .recordFailure, true => some (s.report call.caller call.now (s.breaker.recordFailure call.now))
    | _, _ => none

/-- Whoever asks within the timeout after an opening is rejected. -/
def Blocks (s : SharedBreaker ι) : Prop :=
  ∀ caller now, s.calling caller = false → s.now ≤ now →
    ∀ opened ∈ s.openings, now < opened + s.breaker.resetTimeout → (s.breaker.isOpen now).1 = true

/-- A success is not reported to a breaker that is open and whose timeout has not passed. -/
def Timely (s : SharedBreaker ι) (call : BreakerCall ι) : Prop :=
  call.method = .recordSuccess → ∀ openedAt, s.breaker.state = .Open openedAt →
    openedAt + s.breaker.resetTimeout ≤ call.now

/-- Who makes the breaker half-open is let through, and nobody else is until somebody reports. -/
def OneProbe (s : SharedBreaker ι) (call : BreakerCall ι) : Prop :=
  call.method = .isOpen →
    ((s.breaker.isOpen call.now).2.state ≠ s.breaker.state → (s.breaker.isOpen call.now).1 = false) ∧
      (s.probe.isSome → (s.breaker.isOpen call.now).1 = true)

/-- Nobody asks a half-open breaker. -/
def Unrivalled (s : SharedBreaker ι) (call : BreakerCall ι) : Prop :=
  call.method = .isOpen → s.breaker.state ≠ .HalfOpen

instance (s : SharedBreaker ι) (call : BreakerCall ι) : Decidable (Timely s call) :=
  match state : s.breaker.state with
  | .Open openedAt =>
      decidable_of_iff (call.method = .recordSuccess → openedAt + s.breaker.resetTimeout ≤ call.now)
        (by simp [Timely, state])
  | .Closed _ => .isTrue (by simp [Timely, state])
  | .HalfOpen => .isTrue (by simp [Timely, state])

instance (s : SharedBreaker ι) (call : BreakerCall ι) : Decidable (Unrivalled s call) := by
  unfold Unrivalled
  infer_instance

end SharedBreaker

/-! ## One breaker and its history -/

section History
variable {κ : Type}

def closed : BreakerState → Bool
  | .Closed _ => true
  | _ => false

def BreakerCall.apply (breaker : CircuitBreaker) (call : BreakerCall κ) : CircuitBreaker :=
  match call.method with
  | .isOpen => (breaker.isOpen call.now).2
  | .recordSuccess => breaker.recordSuccess
  | .recordFailure => breaker.recordFailure call.now

/-- `failures` is the number of failures since the breaker last became closed or last recorded a success, and `opened`
is when it last became open. -/
structure WatchedBreaker where
  breaker : CircuitBreaker
  failures : Nat
  opened : Option Nat

namespace WatchedBreaker

def start (failureThreshold : UInt32) (resetTimeout : Nat) : WatchedBreaker :=
  ⟨.new failureThreshold resetTimeout, 0, none⟩

def next (s : WatchedBreaker) (call : BreakerCall κ) : WatchedBreaker :=
  let breaker := call.apply s.breaker
  { breaker
    failures :=
      if call.method = .recordSuccess ∨ (closed breaker.state ∧ ¬closed s.breaker.state) then 0
      else if call.method = .recordFailure then s.failures + 1
      else s.failures
    opened := if blocks breaker.state ∧ ¬blocks s.breaker.state then some call.now else s.opened }

def run (failureThreshold : UInt32) (resetTimeout : Nat) (calls : List (BreakerCall κ)) : WatchedBreaker :=
  calls.foldl next (start failureThreshold resetTimeout)

def CountsFailures (failureThreshold : UInt32) (s : WatchedBreaker) : Prop :=
  ∀ n, s.breaker.state = .Closed n → n.toNat = s.failures ∧ s.failures < failureThreshold.toNat

/-- What it takes to leave each of the states. -/
structure Leaves (failureThreshold : UInt32) (resetTimeout : Nat) (s : WatchedBreaker) (call : BreakerCall κ) :
    Prop where
  closed : closed s.breaker.state = true →
    (closed (s.next call).breaker.state = false ↔
      call.method = .recordFailure ∧ s.failures + 1 = failureThreshold.toNat)
  opened : blocks s.breaker.state = true → blocks (s.next call).breaker.state = false →
    call.method = .recordSuccess ∨ call.method = .isOpen ∧ ∃ opened ∈ s.opened, opened + resetTimeout ≤ call.now
  halfOpen : s.breaker.state = .HalfOpen → (s.next call).breaker.state ≠ .HalfOpen →
    call.method = .recordSuccess ∨ call.method = .recordFailure

end WatchedBreaker

end History

end LiveWorld.Spec

import LiveWorld.Spec.Delivery

/-!
# One producer and one consumer

`Observed` is a ring system together with the number of items that were waiting when the producer loaded `head`
for the first time in its latest push.
-/

namespace LiveWorld.Spec.Fifo
open Delivery
variable {T : Type}

/-- The producer is sender 0, and there is no other. -/
def OneProducer : Action T → Prop
  | .send p _ | .advance p => p = 0
  | .pop | .consume => True

instance (a : Action T) : Decidable (OneProducer a) := by
  cases a <;> unfold OneProducer <;> infer_instance

def waiting (s : RingSystem T) : Nat := (accepted s.log).length - (popped s.log).length

def firstHeadLoad (s : RingSystem T) : Action T → Bool
  | .advance p =>
      match s.senders p with
      | .loadHead _ _ => true
      | _ => false
  | _ => false

structure Observed (T : Type) where
  system : RingSystem T
  waitingAtLoad : Nat

namespace Observed

def start (base : UInt64) : Observed T := ⟨RingSystem.start base, 0⟩

def next (N : Nat) (o : Observed T) (a : Action T) : Option (Observed T) :=
  (o.system.step N a).map fun system =>
    ⟨system, if firstHeadLoad o.system a then waiting o.system else o.waitingAtLoad⟩

abbrev Reachable (N : Nat) (base : UInt64) : Observed T → Prop :=
  Transition.Reachable (· = start base) (fun _ a => OneProducer a) (next N)

end Observed

/-- `refusals` is about the step in which a push returns `false`, `empties` about the one in which a pop
returns `None`. -/
structure BoundedFifo (N : Nat) (o : Observed T) : Prop where
  order : popped o.system.log <+: (accepted o.system.log).map some
  reads : ∀ head, o.system.consumer = .readSlot head →
    ∃ item ∈ written o.system.log, o.system.ring.buf (SpscInner.slot N head) = some item ∧
      some item ∉ popped o.system.log
  capacity : (written o.system.log).length ≤ (popped o.system.log).length + (N - 1)
  acceptedWritten : (accepted o.system.log).length ≤ (written o.system.log).length
  refusals : ∀ after item, o.system.step N (.advance 0) = some after →
    after.log = .refused 0 item :: o.system.log → o.waitingAtLoad = N - 1
  empties : ∀ after, o.system.step N .consume = some after → after.consumer = .idle →
    after.log = o.system.log → popped o.system.log = (accepted o.system.log).map some

end LiveWorld.Spec.Fifo

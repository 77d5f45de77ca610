import LiveWorld.Lib.Transition
import LiveWorld.SpscQueue

/-!
# Delivery through one ring

What a run of senders and a consumer has accepted, written and popped, read off its event log, and
when such a run has lost or invented nothing.
-/

namespace LiveWorld.Spec.Delivery
variable {T : Type}

def accepted : List (Event T) → List T
  | [] => []
  | .stored _ item :: log => accepted log ++ [item]
  | _ :: log => accepted log

def popped : List (Event T) → List (Option T)
  | [] => []
  | .popped item :: log => popped log ++ [item]
  | _ :: log => popped log

def written : List (Event T) → List T
  | [] => []
  | .wrote _ item :: log => item :: written log
  | _ :: log => written log

/-- How often `tail` has been stored since sender `p` last loaded it. -/
def storesSince (p : Nat) : List (Event T) → Nat
  | [] => 0
  | .loadedTail q :: log => if q = p then 0 else storesSince p log
  | .stored _ _ :: log => storesSince p log + 1
  | _ :: log => storesSince p log

def Drained (N : Nat) (s : RingSystem T) : Prop :=
  (∀ p, s.senders p = .idle) ∧ s.consumer = .idle ∧ (SpscInner.pop N s.ring).1 = none

/-- Every pop returned a written item that had not been popped before, and once the queue is drained
every accepted item has been popped exactly once. -/
structure Delivers [DecidableEq T] (N : Nat) (s : RingSystem T) : Prop where
  genuine : ∀ x ∈ popped s.log, ∃ item ∈ written s.log, x = some item
  once : (popped s.log).Nodup
  complete : Drained N s → ∀ item ∈ accepted s.log, (popped s.log).count (some item) = 1

/-- A send stores `tail` only if nobody has stored it since this send loaded it. -/
def Unraced (s : RingSystem T) : Action T → Prop
  | .advance p => ∀ item tail, s.senders p = .storeTail item tail → storesSince p s.log = 0
  | _ => True

instance (s : RingSystem T) (a : Action T) : Decidable (Unraced s a) :=
  match a with
  | .advance p =>
      match here : s.senders p with
      | .storeTail _ _ => decidable_of_iff (storesSince p s.log = 0) (by simp [Unraced, here])
      | .idle | .loadTail _ | .loadHead _ _ | .reloadHead _ _ | .writeSlot _ _ =>
          .isTrue (by simp [Unraced, here])
  | .send _ _ | .pop | .consume => .isTrue trivial

abbrev Reachable (N : Nat) (base : UInt64) (allowed : RingSystem T → Action T → Prop) : RingSystem T → Prop :=
  Transition.Reachable (· = RingSystem.start base) allowed (RingSystem.step N)

end LiveWorld.Spec.Delivery

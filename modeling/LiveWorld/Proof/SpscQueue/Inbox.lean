import LiveWorld.Actor
import LiveWorld.Proof.SpscQueue.Delivery

/-!
# The inbox of an actor

Every clone of an actor's handle is one sender on the actor's ring.
-/

namespace LiveWorld.Proof.SpscQueue
open Spec.Delivery

theorem inbox_delivers_of_unraced (s : RingSystem ActorMessage) (reachable : Reachable queueSize 0 Unraced s) :
    Delivers queueSize s :=
  delivers_of_unraced (k := 10) (by norm_num) reachable

-- two clones send one after the other, then the actor drains its inbox
theorem inbox_delivers_in_turn :
    let actions : List (Action ActorMessage) :=
      [.send 0 (.GainXp 1), .advance 0, .advance 0, .advance 0, .send 1 .Shutdown, .advance 0, .advance 1,
        .advance 1, .advance 1, .advance 1, .pop, .consume, .consume, .consume, .consume, .pop, .consume, .consume,
        .consume, .consume]
    ∃ s, Transition.run (RingSystem.step queueSize) (RingSystem.start 0) actions = some s ∧ Delivers queueSize s := by
  intro actions
  refine ⟨_, rfl, ?_⟩
  apply inbox_delivers_of_unraced
  have inTurn : Transition.Respects Unraced (RingSystem.step queueSize) (RingSystem.start 0) actions := by
    decide +kernel
  exact Transition.Reachable.run (.start rfl) inTurn rfl

/-! ## Two clones that race -/

-- both load `tail = 0`, so the second writes over the first one's slot and stores the same `tail`
def race : List (Action ActorMessage) :=
  [.send 0 (.GainXp 1), .send 1 (.GainXp 2), .advance 0, .advance 1, .advance 0, .advance 0, .advance 0,
    .advance 1, .advance 1, .advance 1, .pop, .consume, .consume, .consume, .consume, .pop, .consume, .consume]

def raced : Option (RingSystem ActorMessage) :=
  Transition.run (RingSystem.step queueSize) (RingSystem.start 0) race

theorem raced_log : raced.map (fun s => (accepted s.log, popped s.log)) =
    some ([⟨0, .GainXp 1⟩, ⟨1, .GainXp 2⟩], [some ⟨1, .GainXp 2⟩]) := by decide +kernel

theorem raced_drained : ∃ s, raced = some s ∧ Drained queueSize s := by
  refine ⟨_, rfl, ?_, rfl, rfl⟩
  intro p
  match p with
  | 0 => rfl
  | 1 => rfl
  | p + 2 => rfl

theorem raced_loses_message :
    ¬∀ s : RingSystem ActorMessage, Reachable queueSize 0 (fun _ _ => True) s → Delivers queueSize s := by
  intro claim
  obtain ⟨s, ran, drained⟩ := raced_drained
  have log := raced_log
  rw [ran, Option.map_some, Option.some.injEq, Prod.mk.injEq] at log
  have delivers := claim s (Transition.Reachable.run (.start rfl) (by decide +kernel) ran)
  have once := delivers.complete drained ⟨0, .GainXp 1⟩ (by rw [log.1]; exact List.mem_cons_self)
  rw [log.2] at once
  revert once
  decide

end LiveWorld.Proof.SpscQueue

import LiveWorld.RedisSync
import LiveWorld.Spec.Bookkeeping
import LiveWorld.Spec.EngineRun

/-!
# A cluster of pods

Every pod runs an engine, merges its actors into its snapshot, publishes the snapshot's changes and
receives what the others publish. The channel delivers the payloads to every pod in one order; a pod
knows how many of them it has received.
-/

namespace LiveWorld.Spec
open HashTable

structure Pod where
  world : World
  snapshot : SharedSnapshot
  prevLocalIds : HashSet ActorId
  publisher : Publisher
  received : Nat

structure Cluster where
  pods : String → Pod
  log : List SyncPayload

inductive ClusterStep : Type 1
  | call (pod : String) (call : EngineCall)
  | merge (pod : String) (ord : Order)
  | publish (pod : String) (ord : Order)
  | deliver (pod : String)

namespace Cluster

def start (cfg : WorldConfig) : Cluster := ⟨fun _ => ⟨World.start cfg, .empty, ∅, .new, 0⟩, []⟩

def set (c : Cluster) (name : String) (pod : Pod) : Cluster := { c with pods := Function.update c.pods name pod }

def next (c : Cluster) : ClusterStep → Option Cluster
  | .call name call =>
      let pod := c.pods name
      some (c.set name { pod with world := pod.world.next call })
  | .merge name ord =>
      let pod := c.pods name
      let (snapshot, prevLocalIds) :=
        mergeLocal pod.snapshot pod.prevLocalIds (pod.world.engine.fullSnapshot ord)
      some (c.set name { pod with snapshot, prevLocalIds })
  | .publish name ord =>
      let pod := c.pods name
      let (payload, publisher) := pod.publisher.publish ord name pod.snapshot ⟨true, true, true⟩
      some { c.set name { pod with publisher } with log := c.log ++ payload.toList }
  | .deliver name =>
      let pod := c.pods name
      c.log[pod.received]?.map fun payload =>
        c.set name { pod with snapshot := receive name pod.snapshot payload, received := pod.received + 1 }

/-- The steps are those of member pods, which spawn actors under new ids of their own. -/
def Proper (members : List String) (home : ActorId → String) (c : Cluster) : ClusterStep → Prop
  | .call name call => name ∈ members ∧ (∀ spec ∈ call.spawned, spec.id ∉ (c.pods name).world.actorIds) ∧
      ∀ spec ∈ call.spawned, home spec.id = name
  | .merge name _ | .publish name _ | .deliver name => name ∈ members

instance (members : List String) (home : ActorId → String) (c : Cluster) (step : ClusterStep) :
    Decidable (Proper members home c step) := by
  cases step <;> unfold Proper <;> infer_instance

/-- No pod is told of an actor of its own that it does not have any more. -/
def NoLateEcho (home : ActorId → String) (c : Cluster) : ClusterStep → Prop
  | .deliver name => ∀ payload ∈ c.log[(c.pods name).received]?, payload.podId ≠ name →
      ∀ s ∈ payload.updates, home s.id = name → s.id ∈ (c.pods name).snapshot
  | _ => True

instance (home : ActorId → String) (c : Cluster) (step : ClusterStep) : Decidable (NoLateEcho home c step) := by
  cases step <;> unfold NoLateEcho <;> infer_instance

abbrev Reachable (cfg : WorldConfig) (allowed : Cluster → ClusterStep → Prop) : Cluster → Prop :=
  Transition.Reachable (· = start cfg) allowed next

/-- The state after `steps`, if they can all be taken. -/
def after (cfg : WorldConfig) (steps : List ClusterStep) : Cluster :=
  (Transition.run next (start cfg) steps).getD (start cfg)

def Despawned (home : ActorId → String) (c : Cluster) (id : ActorId) : Prop :=
  id ∈ (c.pods (home id)).world.actorIds ∧ id ∉ (c.pods (home id)).world.engine.runtime.actors

/-- Every member has merged and then published in `steps`, and has received everything after them. -/
structure Settled (members : List String) (steps : List ClusterStep) (c : Cluster) : Prop where
  published : ∀ name ∈ members, ∃ ord ord', [.merge name ord, .publish name ord'].Sublist steps
  received : ∀ name ∈ members, (c.pods name).received = c.log.length

/-- After any settled sequence of steps no member has an actor that was gone before it. -/
def Forgets (members : List String) (home : ActorId → String) (allowed : Cluster → ClusterStep → Prop) (c : Cluster) :
    Prop :=
  ∀ steps after, Transition.Respects allowed next c steps → Transition.run next c steps = some after →
    Settled members steps after → ∀ id, Despawned home c id → ∀ name ∈ members, id ∉ (after.pods name).snapshot

end Cluster

end LiveWorld.Spec

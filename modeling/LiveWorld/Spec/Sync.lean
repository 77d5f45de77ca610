import LiveWorld.Lib.Transition
import LiveWorld.RedisSync
import LiveWorld.Spec.Bookkeeping

/-!
# One publisher and one subscriber

`Link` is a pod that publishes, a pod that subscribes, and the payloads between them. `Outbox` is a
publisher alone, whose connections and publishes may fail.
-/

namespace LiveWorld.Spec
open HashTable

/-- A villager as the engine spawns it. -/
def sighting (id : UInt64) (position : Position) : ActorState := (Actor.spawn .empty (villager id position)).1.1.state

/-! ## Local actors -/

def LocalsKept (snap : SharedSnapshot) (locals : List ActorId) (updates : List ActorState) (removed : List ActorId) :
    Prop :=
  ∀ id ∈ locals, id ∈ applyRemoteDelta snap updates removed ∧
    (applyRemoteDelta snap updates removed).lookup id = snap.lookup id

/-! ## Convergence -/

structure Link where
  publisher : Publisher
  /-- what the publisher has published from, the latest snapshot first -/
  history : List SharedSnapshot
  inFlight : List SyncPayload
  snapshot : SharedSnapshot
  prevLocalIds : HashSet ActorId

inductive LinkStep : Type 1
  | publish (ord : Order) (snap : SharedSnapshot)
  | deliver
  | merge (states : List ActorState)

namespace Link

def start (snapshot : SharedSnapshot) : Link := ⟨.new, [], [], snapshot, ∅⟩

def next (podId : String) (link : Link) : LinkStep → Option Link
  | .publish ord snap =>
      let (payload, publisher) := link.publisher.publish ord podId snap ⟨true, true, true⟩
      some { link with publisher, history := snap :: link.history, inFlight := link.inFlight ++ payload.toList }
  | .deliver =>
      match link.inFlight with
      | [] => none
      | payload :: rest =>
          some { link with
            inFlight := rest
            snapshot := applyRemoteDelta link.snapshot payload.updates payload.removed }
  | .merge states =>
      let (snapshot, prevLocalIds) := mergeLocal link.snapshot link.prevLocalIds states
      some { link with snapshot, prevLocalIds }

/-- The ids of the publishing pod are none of the subscriber's. -/
def Disjoint (theirs : ActorId → Prop) : LinkStep → Prop
  | .merge states => ∀ s ∈ states, ¬theirs s.id
  | _ => True

def Reachable (podId : String) (theirs : ActorId → Prop) : Link → Prop :=
  Transition.Reachable (fun link => ∃ snapshot : SharedSnapshot, (∀ id ∈ snapshot, ¬theirs id) ∧ link = start snapshot)
    (fun _ step => Disjoint theirs step) (next podId)

def Converged (theirs : ActorId → Prop) (link : Link) : Prop :=
  ∀ id, theirs id → link.snapshot.lookup id = link.publisher.prev.lookup id

/-- Whoever has been in every snapshot since it appeared in state `s` is still in state `s`. -/
def KeepsFirstState (theirs : ActorId → Prop) (history : List SharedSnapshot) : Prop :=
  ∀ later appeared before id s, theirs id → history = later ++ appeared :: before → (∀ snap ∈ later, id ∈ snap) →
    (∀ snap ∈ before.head?, id ∉ snap) → appeared.lookup id = some s →
    ∀ current ∈ history.head?, current.lookup id = some s

end Link

/-! ## The tick loop and the subscriber -/

inductive SnapshotStep
  | merge (states : List ActorState)
  | remote (updates : List ActorState) (removed : List ActorId)

/-- What the tick loop and the subscriber of a pod write. -/
structure PodSnapshot where
  shared : SharedSnapshot
  prevLocalIds : HashSet ActorId

namespace PodSnapshot

def start (shared : SharedSnapshot) : PodSnapshot := ⟨shared, ∅⟩

def next (pod : PodSnapshot) : SnapshotStep → PodSnapshot
  | .merge states =>
      let (shared, prevLocalIds) := mergeLocal pod.shared pod.prevLocalIds states
      ⟨shared, prevLocalIds⟩
  | .remote updates removed => { pod with shared := applyRemoteDelta pod.shared updates removed }

def run (shared : SharedSnapshot) (steps : List SnapshotStep) : PodSnapshot := steps.foldl next (start shared)

/-- The states of the last merge; none if there was no merge. -/
def lastMerged (steps : List SnapshotStep) : List ActorState :=
  steps.foldl (fun last step =>
    match step with
    | .merge states => states
    | .remote _ _ => last) []

/-- A merge after one of `previous`. -/
structure Merged (previous states : List ActorState) (before after : SharedSnapshot) : Prop where
  here : ∀ s ∈ states, after.lookup s.id = some s
  departed : ∀ s ∈ previous, s.id ∉ states.map ActorState.id → s.id ∉ after
  others : ∀ id, id ∉ previous.map ActorState.id → id ∉ states.map ActorState.id → after.lookup id = before.lookup id

end PodSnapshot

/-! ## Failing publishes -/

structure Iteration : Type 1 where
  ord : Order
  snap : SharedSnapshot
  attempt : Attempt

def announced (payloads : List SyncPayload) : HashSet ActorId :=
  payloads.foldl (fun ids payload =>
    payload.removed.foldl (fun ids id => ids.erase id)
      (payload.updates.foldl (fun ids s => ids.insert s.id ()) ids)) ∅

structure Outbox where
  publisher : Publisher
  /-- the payloads that were published, in order -/
  published : List SyncPayload
  /-- the snapshot at the last of them -/
  last : SharedSnapshot

namespace Outbox

def start : Outbox := ⟨.new, [], .empty⟩

def next (podId : String) (box : Outbox) (iteration : Iteration) : Outbox :=
  match box.publisher.publish iteration.ord podId iteration.snap iteration.attempt with
  | (some payload, publisher) => ⟨publisher, box.published ++ [payload], iteration.snap⟩
  | (none, publisher) => { box with publisher }

def Lossless (box : Outbox) : Prop := ∀ id, id ∈ announced box.published ↔ id ∈ box.last

/-- An iteration that connects and then fails does so with the ids of the one before. -/
def LosesNoId (box : Outbox) (iteration : Iteration) : Prop :=
  iteration.attempt.connects = true → (iteration.attempt.serialises && iteration.attempt.publishes) = false →
    ∀ id, id ∈ iteration.snap ↔ id ∈ box.publisher.prev

abbrev Reachable (podId : String) (allowed : Outbox → Iteration → Prop) : Outbox → Prop :=
  Transition.Reachable (· = start) allowed fun box iteration => some (box.next podId iteration)

end Outbox

end LiveWorld.Spec

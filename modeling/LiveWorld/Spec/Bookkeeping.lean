import LiveWorld.ActorRuntime
import LiveWorld.Lib.Transition

/-!
# The bookkeeping of the runtime

The actor map, the handle map, the grid and the counters describe the same set of actors.
-/

namespace LiveWorld.Spec
open HashTable

def Filed (grid : SpatialGrid) (cell : GridCell) (id : ActorId) : Prop :=
  ∃ set, grid.cells.lookup cell = some set ∧ id ∈ set

structure Bookkeeping (rt : ActorRuntime) : Prop where
  sameKeys : ∀ id, id ∈ rt.actors ↔ id ∈ rt.handles
  feeds : ∀ id actor handle, rt.actors.lookup id = some actor → rt.handles.lookup id = some handle →
    handle.sender = actor.inbox
  filed : ∀ id actor, rt.actors.lookup id = some actor →
    ∀ cell, Filed rt.grid cell id ↔ cell = actor.state.cell
  onlyLive : ∀ cell id, Filed rt.grid cell id → id ∈ rt.actors
  occupied : ∀ cell set, rt.grid.cells.lookup cell = some set → set ≠ ∅
  total : ∀ ord, rt.grid.totalActors ord = rt.actorCount
  counted : rt.stats.totalActors = rt.actorCount

inductive RuntimeCall : Type 1
  | spawn (spec : ActorSpec)
  | despawn (id : ActorId)
  | tick (ord : Order) (tickNum : UInt64)
  | send (handle : ActorHandle) (msg : ActorMessage)

def RuntimeCall.apply (rt : ActorRuntime) : RuntimeCall → ActorRuntime
  | .spawn spec => (rt.spawnActor spec).2
  | .despawn id => (rt.despawnActor id).2
  | .tick ord tickNum => (rt.tick ord tickNum).2
  | .send handle msg => (rt.send handle msg).2

def RuntimeCall.Fresh (rt : ActorRuntime) : RuntimeCall → Prop
  | .spawn spec => spec.id ∉ rt.actors
  | _ => True

abbrev RuntimeReachable (cfg : WorldConfig) : ActorRuntime → Prop :=
  Transition.Reachable (· = ActorRuntime.new cfg) RuntimeCall.Fresh fun rt call => some (call.apply rt)

def villager (id : UInt64) (position : Position) : ActorSpec where
  id := ⟨id⟩
  name := "Villager"
  personality := "curious"
  backstory := "A wanderer"
  model := .Mock
  position := position
  role := .Wanderer
  faction := .Neutral

end LiveWorld.Spec

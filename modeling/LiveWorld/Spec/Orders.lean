import LiveWorld.Spec.Bookkeeping

/-!
# Ticks in different orders

The order in which a tick comes to the actors is the hasher's. Two maps are the same if they have the same entries,
whatever the order in which they keep them.
-/

namespace LiveWorld.Spec
open HashTable

/-- The actor that an effect comes from. -/
def owner : ActorEffect → ActorId
  | .Move id _ | .Speak id _ | .Interact id _ _ | .Damaged id _ | .Died id _ _ | .LevelUp id _ _ => id

def effectsFrom (id : ActorId) (effects : List ActorEffect) : List ActorEffect :=
  effects.filter fun effect => owner effect = id

def membersOf (grid : SpatialGrid) (cell : GridCell) : Option (Finset ActorId) :=
  (grid.cells.lookup cell).map fun set => set.keys.toFinset

structure SameOutcome (one other : List ActorEffect × ActorRuntime) : Prop where
  actors : ∀ id, one.2.actors.lookup id = other.2.actors.lookup id
  inboxes : ∀ id actor, one.2.actors.lookup id = some actor →
    one.2.inboxes.pending actor.inbox = other.2.inboxes.pending actor.inbox
  handles : ∀ id, one.2.handles.lookup id = other.2.handles.lookup id
  cells : ∀ cell, membersOf one.2.grid cell = membersOf other.2.grid cell
  cellSize : one.2.grid.cellSize = other.2.grid.cellSize
  stats : one.2.stats = other.2.stats
  effects : one.1.Perm other.1
  inTurn : ∀ id, effectsFrom id one.1 = effectsFrom id other.1

end LiveWorld.Spec

import LiveWorld.Actor
import LiveWorld.SpatialGrid

namespace LiveWorld
open HashTable

structure RuntimeStats where
  totalActors : Nat
  totalEffectsLastTick : Nat
  tickCount : UInt64
  deriving DecidableEq, Repr

/-- `inboxes` are the rings behind the handles; they live on the heap in the source. -/
structure ActorRuntime where
  actors : HashMap ActorId Actor
  handles : HashMap ActorId ActorHandle
  grid : SpatialGrid
  stats : RuntimeStats
  inboxes : Inboxes

namespace ActorRuntime

def new (cfg : WorldConfig) : ActorRuntime where
  actors := ∅
  handles := ∅
  grid := SpatialGrid.new cfg
  stats := ⟨0, 0, 0⟩
  inboxes := Inboxes.empty

def spawnActor (self : ActorRuntime) (spec : ActorSpec) : ActorHandle × ActorRuntime :=
  let id := spec.id
  let ((actor, handle), inboxes) := Actor.spawn self.inboxes spec
  let (cell, grid) := self.grid.insert id actor.state.position
  let actor := actor.activate cell
  let actors := self.actors.insert id actor
  (handle,
    { self with
      actors
      handles := self.handles.insert id handle
      grid
      stats := { self.stats with totalActors := HashMap.size actors }
      inboxes })

def despawnActor (self : ActorRuntime) (id : ActorId) : Bool × ActorRuntime :=
  match self.actors.lookup id with
  | some actor =>
      let actors := self.actors.erase id
      (true,
        { self with
          actors
          grid := (self.grid.remove id actor.state.cell).2
          handles := self.handles.erase id
          stats := { self.stats with totalActors := HashMap.size actors } })
  | none => (false, self)

def handle (self : ActorRuntime) (id : ActorId) : Option ActorHandle := self.handles.lookup id

def send (self : ActorRuntime) (handle : ActorHandle) (msg : ActorMessage) : Bool × ActorRuntime :=
  let (sent, inboxes) := handle.send self.inboxes msg
  (sent, { self with inboxes })

def applyMoves (grid : SpatialGrid) (actor : Actor) (effects : List ActorEffect) : SpatialGrid × Actor :=
  effects.foldl (fun (grid, actor) effect =>
    match effect with
    | .Move id dest =>
        let (newCell, grid) := grid.moveActor id actor.state.cell dest
        (grid, actor.applyMove dest newCell)
    | _ => (grid, actor)) (grid, actor)

structure TickLoop where
  runtime : ActorRuntime
  allEffects : List ActorEffect
  toDespawn : List ActorId

def tickActor (tickNum : UInt64) (loop : TickLoop) (entry : (_ : ActorId) × Actor) : TickLoop :=
  let self := loop.runtime
  let actor := entry.2.tick tickNum
  let (actor, effects, left) := actor.drainInbox (self.inboxes.pending actor.inbox)
  let (grid, actor) := applyMoves self.grid actor effects
  { runtime :=
      { self with
        actors := self.actors.insert entry.1 actor
        grid
        inboxes := self.inboxes.set actor.inbox left }
    allEffects := loop.allEffects ++ effects
    toDespawn := if actor.isAlive then loop.toDespawn else loop.toDespawn ++ [actor.id] }

def tick (self : ActorRuntime) (ord : Order) (tickNum : UInt64) : List ActorEffect × ActorRuntime :=
  let loop := (ord.visit self.actors.entries).foldl (tickActor tickNum) ⟨self, [], []⟩
  let runtime := loop.toDespawn.foldl (fun rt id => (rt.despawnActor id).2) loop.runtime
  (loop.allEffects,
    { runtime with
      stats := { runtime.stats with totalEffectsLastTick := loop.allEffects.length, tickCount := tickNum } })

def snapshotAll (self : ActorRuntime) (ord : Order) : List ActorState :=
  (HashMap.values ord self.actors).map Actor.snapshot

def actorCount (self : ActorRuntime) : Nat := HashMap.size self.actors

def specsSnapshot (self : ActorRuntime) (ord : Order) : List ActorSpec :=
  (HashMap.values ord self.actors).map Actor.spec

end ActorRuntime

end LiveWorld

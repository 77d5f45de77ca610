import LiveWorld.Lib.Transition
import LiveWorld.WorldEngine

/-!
# Runs of the engine

`World` is an engine together with what its callers have done so far: the ids they spawned actors
under, and the actors that have left since the last tick.
-/

namespace LiveWorld.Spec
open HashTable

def queueOf (engine : WorldEngine) (session : SessionId) : List SessionFrame :=
  (engine.sessionQueues.lookup session).getD []

/-- The frames that are new in the queue of `session`. -/
def newFrames (before after : WorldEngine) (session : SessionId) : List SessionFrame :=
  (queueOf after session).drop (queueOf before session).length

inductive EngineCall : Type 1
  | spawnActorForSession (ord : Order) (spec : ActorSpec) (session : SessionId)
  | spawnActorStandalone (spec : ActorSpec)
  | removeSession (session : SessionId) (despawn : Bool)
  | despawnActor (id : ActorId)
  | send (handle : ActorHandle) (msg : ActorMessage)
  | applyDirective (directive : WorldDirective)
  | broadcastWorldEvent (message : String)
  | drainSession (session : SessionId)
  | tick (ord : Order) (clock : SessionId → UInt64)

namespace EngineCall

def apply (engine : WorldEngine) : EngineCall → WorldEngine
  | .spawnActorForSession ord spec session => (engine.spawnActorForSession ord spec session).2
  | .spawnActorStandalone spec => (engine.spawnActorStandalone spec).2
  | .removeSession session despawn => engine.removeSession session despawn
  | .despawnActor id => engine.despawnActor id
  | .send handle msg => (engine.send handle msg).2
  | .applyDirective directive => engine.applyDirective directive
  | .broadcastWorldEvent message => engine.broadcastWorldEvent message
  | .drainSession session => (engine.drainSession session).2
  | .tick ord clock => engine.tick ord clock

def spawned : EngineCall → Option ActorSpec
  | .spawnActorForSession _ spec _ => some spec
  | .spawnActorStandalone spec => some spec
  | _ => none

def sent : EngineCall → Option ActorMessage
  | .send _ msg => some msg
  | .applyDirective (.ForceMove _ dest) => some (.Move dest)
  | _ => none

def isTick : EngineCall → Bool
  | .tick _ _ => true
  | _ => false

end EngineCall

structure World where
  engine : WorldEngine
  actorIds : List ActorId
  /-- since the last tick -/
  despawned : List ActorId

namespace World

def start (cfg : WorldConfig) : World := ⟨WorldEngine.new cfg, [], []⟩

def departed (w : World) (call : EngineCall) : List ActorId :=
  w.despawned ++ w.engine.runtime.actors.keys.filter fun id =>
    decide (id ∉ (call.apply w.engine).runtime.actors)

def next (w : World) (call : EngineCall) : World where
  engine := call.apply w.engine
  actorIds := (call.spawned.map ActorSpec.id).toList ++ w.actorIds
  despawned := if call.isTick then [] else w.departed call

def Distinct (w : World) (call : EngineCall) : Prop := ∀ spec ∈ call.spawned, spec.id ∉ w.actorIds

end World

abbrev WorldReachable (cfg : WorldConfig) (allowed : World → EngineCall → Prop) : World → Prop :=
  Transition.Reachable (· = World.start cfg) allowed fun w call => some (w.next call)

end LiveWorld.Spec

import LiveWorld.Spec.EngineRun

/-!
# The deltas a session gets

A session sees the actors around its anchor. `ExactDelta` says what a tick owes it.
-/

namespace LiveWorld.Spec
open HashTable

def Admissible : ActorMessage → Prop
  | .Move dest => dest.InWorld
  | .Shutdown => False
  | _ => True

instance (msg : ActorMessage) : Decidable (Admissible msg) := by
  cases msg <;> unfold Admissible <;> infer_instance

/-- Actors come with new ids at places inside the world, get admissible messages, and leave with
their session. -/
structure Playing (w : World) (call : EngineCall) : Prop where
  distinct : w.Distinct call
  spawnInWorld : ∀ spec ∈ call.spawned, spec.position.InWorld
  admissible : ∀ msg ∈ call.sent, Admissible msg
  withSession : ∀ id, call ≠ .despawnActor id

structure ValidConfig (cfg : WorldConfig) : Prop where
  sized : 0 < cfg.cellSize
  radiusNonneg : 0 ≤ cfg.interestRadius
  radiusI32 : cfg.interestRadius ≤ Machine.maxI32

/-- `delta` holds every actor of `engine` within `radius` of `anchor`, once, and the ids `departed`. -/
structure ExactDelta (engine : WorldEngine) (radius : Int) (anchor : Actor) (departed : List ActorId)
    (delta : StateDelta) : Prop where
  tick : delta.tick = engine.tickCount
  updates : ∀ s, s ∈ delta.updates ↔ ∃ id actor, engine.runtime.actors.lookup id = some actor ∧
    actor.state = s ∧ actor.state.cell.chebyshev anchor.state.cell ≤ radius
  once : (delta.updates.map ActorState.id).Nodup
  removed : ∀ id, id ∈ delta.removed ↔ id ∈ departed
  apart : ∀ s ∈ delta.updates, s.id ∉ delta.removed

end LiveWorld.Spec

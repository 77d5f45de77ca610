import LiveWorld.Spec.EngineRun

/-!
# Sessions and their actors

A session is known to the engine by its queue, by the actor it plays and by its interest window.
-/

namespace LiveWorld.Spec
open HashTable

/-- Actors get new ids, and nobody is shut down or despawned except with their session. -/
structure ThroughSessions (w : World) (call : EngineCall) : Prop where
  distinct : w.Distinct call
  running : call.sent ≠ some .Shutdown
  owned : ∀ id, call ≠ .despawnActor id

/-- The three tables have the same sessions, and the window of a session is where its live actor is. -/
structure Attached (engine : WorldEngine) : Prop where
  queues : ∀ session, session ∈ engine.sessionQueues ↔ session ∈ engine.sessionToActor
  windows : ∀ session, session ∈ engine.interest.sessionAnchors ↔ session ∈ engine.sessionToActor
  anchors : ∀ session anchor cell, engine.interest.sessionAnchors.lookup session = some (anchor, cell) →
    engine.sessionToActor.lookup session = some anchor
  cells : ∀ session id, engine.sessionToActor.lookup session = some id →
    ∃ actor, engine.runtime.actors.lookup id = some actor ∧
      engine.interest.sessionAnchors.lookup session = some (id, actor.state.cell)

end LiveWorld.Spec

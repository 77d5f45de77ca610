import LiveWorld.Client
import LiveWorld.Spec.Cells

/-!
# A client that watches one session

The client of a session starts with an empty map, which it keeps when the session is registered again, and handles the
frames of each drain of the session's queue in order.
-/

namespace LiveWorld.Spec
open HashTable

structure Watched where
  world : World
  client : ClientMap

namespace Watched

def start (cfg : WorldConfig) : Watched := ⟨World.start cfg, ∅⟩

def clientAfter (session : SessionId) (s : Watched) : EngineCall → ClientMap
  | .drainSession drained =>
      if drained = session then Client.handleAll s.client (s.world.engine.drainSession session).1 else s.client
  | _ => s.client

def next (session : SessionId) (s : Watched) (call : EngineCall) : Watched :=
  ⟨s.world.next call, s.clientAfter session call⟩

/-- The delta that finds 32 frames queued does not push out one that removes an actor the client
still has, and at a registration the client has nobody who had gone by the last tick. -/
def KeepsRemovals (session : SessionId) (s : Watched) : EngineCall → Prop
  | .spawnActorForSession _ _ opened => opened = session → ∀ id ∈ s.client, ∃ a ∈ s.world.engine.prevSnapshot, a.id = id
  | .tick ord _ => ∀ delta rest,
      (s.world.engine.applyEffects ord).sessionQueues.lookup session = some (.Delta delta :: rest) →
      32 ≤ (SessionFrame.Delta delta :: rest).length → ∀ id ∈ delta.removed, id ∉ s.client
  | _ => True

end Watched

end LiveWorld.Spec

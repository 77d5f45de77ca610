import LiveWorld.Spec.Freshness

/-!
# Models and the caches of their loops

A run of the server, with all decision loops that have run so far.
-/

namespace LiveWorld.Spec
open HashTable

structure LoopHistory where
  server : Server
  loops : List DecisionLoop

namespace LoopHistory

def start (cfg : WorldConfig) (stored : Except SnapshotError (Option WorldSnapshot)) : LoopHistory :=
  let server := Server.boot cfg stored
  ⟨server, server.running⟩

def next (h : LoopHistory) (step : ServerStep) : LoopHistory :=
  let server := step.apply h.server
  ⟨server, h.loops ++ server.running⟩

/-- The loops that the command processor has started have a cache each, and they share it with those of the same
model. -/
structure SharesCaches (h : LoopHistory) : Prop where
  cached : ∀ session dl, h.server.decisionHandles.lookup session = some dl → dl ∈ h.loops ∧ dl.cacheKey.isSome
  entry : ∀ dl ∈ h.loops, ∀ key ∈ dl.cacheKey, h.server.llmCaches.lookup key = some dl.spec.model
  shared : ∀ one ∈ h.loops, ∀ other ∈ h.loops, ∀ key ∈ one.cacheKey, ∀ key' ∈ other.cacheKey,
    key = key' ↔ one.spec.model = other.spec.model

end LoopHistory

end LiveWorld.Spec

import LiveWorld.Persistence
import LiveWorld.Spec.EngineRun

/-!
# Recovery from a snapshot

The snapshot of an engine is written, read back, and its actors are spawned into a new engine.
-/

namespace LiveWorld.Spec
open HashTable

-- a codec for concrete runs, whose contents are tagged texts and snapshots
def tagged : Codec where
  Bytes := String ⊕ WorldSnapshot
  ofText := Sum.inl
  toText := Sum.getLeft?
  serialize := Sum.inr
  deserialize := Sum.getRight?
  toText_ofText := fun _ => rfl
  deserialize_serialize := fun _ => rfl

def reread (codec : Codec) (engine : WorldEngine) (ord : Order) (now : UInt64) : Option WorldSnapshot :=
  codec.deserialize (codec.serialize (engine.worldSnapshotForPersist ord now))

/-- The restored specs are those of the live actors, one for each, at their current positions. -/
structure PreservesIdentities (engine : WorldEngine) (snapshot : WorldSnapshot) : Prop where
  once : ((restoreActors snapshot).map ActorSpec.id).Nodup
  specs : ∀ spec, spec ∈ restoreActors snapshot ↔ ∃ id actor, engine.runtime.actors.lookup id = some actor ∧
    spec = { actor.spec with position := actor.state.position }

def coldStart (cfg : WorldConfig) (snapshot : WorldSnapshot) : WorldEngine :=
  (restoreActors snapshot).foldl (fun engine spec => (engine.spawnActorStandalone spec).2) (WorldEngine.new cfg)

structure SameProgress (stored restored : ActorState) : Prop where
  hp : restored.hp = stored.hp
  maxHp : restored.maxHp = stored.maxHp
  xp : restored.xp = stored.xp
  level : restored.level = stored.level
  lastUtterance : restored.lastUtterance = stored.lastUtterance

def PreservesProgress (restored : WorldEngine) (snapshot : WorldSnapshot) : Prop :=
  ∀ stored ∈ snapshot.actors, ∃ actor, restored.runtime.actors.lookup stored.state.id = some actor ∧
    SameProgress stored.state actor.state

structure AsNew (actor : Actor) : Prop where
  role : Actor.hitPoints actor.spec.role = (80, 80)
  unhurt : actor.state.hp = actor.state.maxHp
  inexperienced : actor.state.xp = 0
  silent : actor.state.lastUtterance = none

end LiveWorld.Spec

import LiveWorld.Spec.Recovery
import LiveWorld.Spec.Shard

/-!
# A restart with another number of shards

`SHARD_COUNT` may differ from one start to the next. The snapshot that the shards wrote is then spawned into other bands,
or into a single engine.
-/

namespace LiveWorld.Spec
open HashTable
variable {shardCount : Nat}

/-- No id of a living actor is given to another one. -/
def FreshIds (engine : ShardedEngine shardCount) (call : ShardCall shardCount) : Prop :=
  ∀ spec ∈ call.spawned, ∀ shard, spec.id ∉ (engine.shards shard).runtime.actors

instance (engine : ShardedEngine shardCount) (call : ShardCall shardCount) : Decidable (FreshIds engine call) :=
  inferInstanceAs (Decidable (∀ spec ∈ call.spawned, ∀ shard, spec.id ∉ (engine.shards shard).runtime.actors))

def rereadShards (codec : Codec) (engine : ShardedEngine shardCount) (ord : Fin shardCount → Order) (now : UInt64) :
    Option WorldSnapshot :=
  codec.deserialize (codec.serialize (engine.worldSnapshotForPersist ord now))

def coldStartShards (cfg : WorldConfig) (atLeastOne : shardCount ≥ 1) (snapshot : WorldSnapshot) :
    ShardedEngine shardCount :=
  (restoreActors snapshot).foldl (fun engine spec => (engine.spawnActorStandalone spec).2) (.new cfg atLeastOne)

/-- The actor is back where it was, and still knows who it is. -/
structure Returned (before after : Actor) : Prop where
  id : after.spec.id = before.spec.id
  name : after.spec.name = before.spec.name
  personality : after.spec.personality = before.spec.personality
  backstory : after.spec.backstory = before.spec.backstory
  model : after.spec.model = before.spec.model
  place : after.state.position = before.state.position

/-- Every actor of the shards has returned, to the engine that `home` says for its place, and nobody else is there. -/
structure Rebuilt {ι : Type} (engine : ShardedEngine shardCount) (homes : ι → WorldEngine) (home : Rat → ι) : Prop where
  returned : ∀ shard id actor, (engine.shards shard).runtime.actors.lookup id = some actor →
    ∃ back, (homes (home actor.state.position.x)).runtime.actors.lookup id = some back ∧ Returned actor back
  nobodyElse : ∀ there id back, (homes there).runtime.actors.lookup id = some back →
    ∃ shard actor, (engine.shards shard).runtime.actors.lookup id = some actor ∧ there = home actor.state.position.x

end LiveWorld.Spec

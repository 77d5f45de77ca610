import LiveWorld.Proof.Engine.Calls
import LiveWorld.Spec.Shard

/-!
# A shard is an engine

Whatever is called on the sharded engine, each shard either stays as it is or takes one call of its own.
-/

namespace LiveWorld.Proof.Shard
open HashTable Spec Proof.Runtime Proof.Engine
variable {cfg : WorldConfig} {shardCount : Nat} {atLeastOne : shardCount ≥ 1} {engine : ShardedEngine shardCount}
  {shard : Fin shardCount}

theorem setShard_shards (engine : ShardedEngine shardCount) (idx shard : Fin shardCount) (new : WorldEngine) :
    (engine.setShard idx new).shards shard = if shard = idx then new else engine.shards shard := by
  by_cases same : shard = idx
  · rw [if_pos same, same]
    exact Function.update_self _ _ _
  · rw [if_neg same]
    exact Function.update_of_ne same _ _

theorem sendToAny_eq (engine : ShardedEngine shardCount) (id : ActorId) (msg : ActorMessage)
    (order : List (Fin shardCount)) :
    engine.sendToAny id msg order =
      match order.find? fun idx => ((engine.shards idx).sendToActor id msg).1 with
      | some idx => engine.setShard idx ((engine.shards idx).sendToActor id msg).2
      | none => engine := by
  induction order with
  | nil => rfl
  | cons idx rest ih =>
      simp only [ShardedEngine.sendToAny, List.find?_cons]
      cases ((engine.shards idx).sendToActor id msg).1 with
      | true => rfl
      | false => exact ih

/-- `one` is what `call` makes of `shard`: it sends and spawns nothing that `call` does not send or spawn here. -/
structure Projects (engine : ShardedEngine shardCount) (call : ShardCall shardCount) (shard : Fin shardCount)
    (one : EngineCall) : Prop where
  ticks : one.isTick = call.isTick
  sent : ∀ msg ∈ one.sent, msg ∈ call.sent
  spawned : ∀ spec ∈ one.spawned, spec ∈ call.spawned ∧ one.registered = call.registered ∧
    shard = engine.shardIdx spec.position.x

inductive Taken (engine : ShardedEngine shardCount) (call : ShardCall shardCount) (shard : Fin shardCount) :
    WorldEngine → Prop
  | stays : call.isTick = false → Taken engine call shard (engine.shards shard)
  | takes (one : EngineCall) : Projects engine call shard one → Taken engine call shard (one.apply (engine.shards shard))

theorem taken_setShard {call : ShardCall shardCount} {idx : Fin shardCount} (one : EngineCall)
    (other : call.isTick = false) (projects : Projects engine call idx one) :
    Taken engine call shard ((engine.setShard idx (one.apply (engine.shards idx))).shards shard) := by
  rw [setShard_shards]
  split_ifs with here
  · subst here
    exact .takes one projects
  · exact .stays other

theorem taken (engine : ShardedEngine shardCount) (call : ShardCall shardCount) (shard : Fin shardCount) :
    Taken engine call shard ((call.apply engine).shards shard) := by
  have none_spawned {one : EngineCall} (none : one.spawned = none) {call : ShardCall shardCount} {idx : Fin shardCount} :
      ∀ spec ∈ one.spawned, spec ∈ call.spawned ∧ one.registered = call.registered ∧
        idx = engine.shardIdx spec.position.x := by
    rw [none]
    exact fun spec member => absurd member (Option.not_mem_none spec)
  cases call with
  | spawnActorForSession ord spec session =>
      refine taken_setShard (.spawnActorForSession ord spec session) rfl ⟨rfl, fun _ member => member, ?_⟩
      intro other member
      cases member
      exact ⟨rfl, rfl, rfl⟩
  | spawnActorStandalone spec =>
      refine taken_setShard (.spawnActorStandalone spec) rfl ⟨rfl, fun _ member => member, ?_⟩
      intro other member
      cases member
      exact ⟨rfl, rfl, rfl⟩
  | removeSession session despawn =>
      simp only [ShardCall.apply, ShardedEngine.removeSession]
      cases engine.sessionToShard.lookup session with
      | none => exact .stays rfl
      | some idx =>
          exact taken_setShard (.removeSession session despawn) rfl ⟨rfl, fun _ member => member, none_spawned rfl⟩
  | send handle msg =>
      exact taken_setShard (.send handle.handle msg) rfl ⟨rfl, fun _ member => member, none_spawned rfl⟩
  | applyDirective directive =>
      cases directive with
      | ForceMove id dest =>
          simp only [ShardCall.apply, ShardedEngine.applyDirective, sendToAny_eq]
          cases (List.finRange shardCount).find? fun idx => ((engine.shards idx).sendToActor id (.Move dest)).1 with
          | none => exact .stays rfl
          | some idx =>
              exact taken_setShard (.applyDirective (.ForceMove id dest)) rfl
                ⟨rfl, fun _ member => member, none_spawned rfl⟩
      | _ => exact .stays rfl
  | drainSession session =>
      simp only [ShardCall.apply, ShardedEngine.drainSession]
      cases engine.sessionToShard.lookup session with
      | none => exact .stays rfl
      | some idx => exact taken_setShard (.drainSession session) rfl ⟨rfl, fun _ member => member, none_spawned rfl⟩
  | tick ord clock => exact .takes (.tick (ord shard) (clock shard)) ⟨rfl, fun _ member => member, none_spawned rfl⟩

theorem globalTick_apply (engine : ShardedEngine shardCount) (call : ShardCall shardCount) :
    (call.apply engine).globalTick = if call.isTick then engine.globalTick + 1 else engine.globalTick := by
  cases call with
  | removeSession session despawn =>
      simp only [ShardCall.apply, ShardedEngine.removeSession]
      cases engine.sessionToShard.lookup session <;> rfl
  | applyDirective directive =>
      cases directive with
      | ForceMove id dest =>
          simp only [ShardCall.apply, ShardedEngine.applyDirective, sendToAny_eq]
          cases (List.finRange shardCount).find? fun idx => ((engine.shards idx).sendToActor id (.Move dest)).1 <;> rfl
      | _ => rfl
  | drainSession session =>
      simp only [ShardCall.apply, ShardedEngine.drainSession]
      cases engine.sessionToShard.lookup session <;> rfl
  | _ => rfl

def EveryShard (Inv : WorldEngine → Prop) (engine : ShardedEngine shardCount) : Prop :=
  ∀ shard, Inv (engine.shards shard)

theorem everyShard_apply {Inv : WorldEngine → Prop} (call : ShardCall shardCount) (inv : EveryShard Inv engine)
    (kept : ∀ shard one, Projects engine call shard one → Inv (engine.shards shard) →
      Inv (one.apply (engine.shards shard))) : EveryShard Inv (call.apply engine) := by
  intro shard
  have taken := taken engine call shard
  generalize (call.apply engine).shards shard = result at taken
  cases taken with
  | stays => exact inv shard
  | takes one projects => exact kept shard one projects (inv shard)

/-- What every call of one engine keeps is true of every shard in every run. -/
theorem shards_invariant {allowed : ShardedEngine shardCount → ShardCall shardCount → Prop} {Inv : WorldEngine → Prop}
    (new : Inv (WorldEngine.new cfg))
    (kept : ∀ engine call shard one, allowed engine call → Projects engine call shard one →
      Inv (engine.shards shard) → Inv (one.apply (engine.shards shard)))
    (reachable : ShardReachable cfg atLeastOne allowed engine) : EveryShard Inv engine := by
  refine reachable.invariant ?_ ?_
  · intro engine first shard
    subst first
    exact new
  · intro engine call after inv permitted moved
    cases moved
    exact everyShard_apply call inv fun shard one => kept engine call shard one permitted

/-! ## Two shards of the default world -/

def afterCalls (calls : List (ShardCall 2)) : ShardedEngine 2 :=
  calls.foldl ShardCall.apply (ShardedEngine.new .default (by decide))

theorem reachable_afterCalls {allowed : ShardedEngine 2 → ShardCall 2 → Prop} {calls : List (ShardCall 2)}
    (respects : Transition.Respects allowed (fun engine call => some (call.apply engine))
      (ShardedEngine.new .default (by decide)) calls) :
    ShardReachable .default (by decide) allowed (afterCalls calls) :=
  Transition.Reachable.foldl (.start rfl) respects

end LiveWorld.Proof.Shard

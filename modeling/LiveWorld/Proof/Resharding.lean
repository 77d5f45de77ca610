import LiveWorld.Proof.Recovery
import LiveWorld.Proof.Shard.Runs
import LiveWorld.Spec.Resharding

/-!
# Restarts under any number of shards

Living actors of different shards have different ids, so the snapshot of all shards has no id twice, and each of its
specs is the only one that is spawned under its id.
-/

namespace LiveWorld.Proof.Resharding
open HashTable Spec Proof.Runtime Proof.Engine Proof.Shard Proof.Recovery
variable {cfg : WorldConfig} {shardCount : Nat} {atLeastOne : shardCount ≥ 1} {engine : ShardedEngine shardCount}
  {spec : ActorSpec} {specs : List ActorSpec} {id : ActorId} {shard : Fin shardCount}

/-! ## What the shards hold -/

/-- No two shards have an actor under the same id. -/
def Apart (engine : ShardedEngine shardCount) : Prop :=
  ∀ id shard other, id ∈ (engine.shards shard).runtime.actors → id ∈ (engine.shards other).runtime.actors → shard = other

theorem apart_reachable (reachable : ShardReachable cfg atLeastOne FreshIds engine) : Apart engine := by
  refine reachable.invariant ?_ ?_
  · intro engine first id shard other member
    subst first
    exact absurd member (AList.notMem_empty id)
  · intro engine call after apart fresh moved id shard other here there
    cases moved
    -- an actor is one of its shard before the call, or spawned there
    have origin (shard : Fin shardCount) (live : id ∈ ((call.apply engine).shards shard).runtime.actors) :
        id ∈ (engine.shards shard).runtime.actors ∨
          ∃ spec ∈ call.spawned, spec.id = id ∧ shard = engine.shardIdx spec.position.x := by
      have taken := taken engine call shard
      generalize (call.apply engine).shards shard = result at taken live
      cases taken with
      | stays => exact .inl live
      | takes one projects =>
          refine (mem_call one live).imp_right ?_
          rintro ⟨spec, spawned, named⟩
          obtain ⟨listed, -, place⟩ := projects.spawned spec spawned
          exact ⟨spec, listed, named, place⟩
    rcases origin shard here with old | ⟨spec, spawned, named, place⟩
    · rcases origin other there with old' | ⟨spec, spawned, named, -⟩
      · exact apart id shard other old old'
      · exact absurd (named ▸ old) (fresh spec spawned shard)
    · rcases origin other there with old' | ⟨spec', spawned', -, place'⟩
      · exact absurd (named ▸ old') (fresh spec spawned other)
      · cases Option.mem_unique spawned spawned'
        exact place.trans place'.symm

theorem wellborn_shards {allowed : ShardedEngine shardCount → ShardCall shardCount → Prop}
    (reachable : ShardReachable cfg atLeastOne allowed engine) : EveryShard (fun one => All Wellborn one.runtime) engine := by
  refine shards_invariant ?_ ?_ reachable
  · exact fun id actor found => absurd (HashMap.mem_of_lookup found) (AList.notMem_empty id)
  · exact fun engine call shard one _ _ all => all_call durable_wellborn all one

theorem restoreActors_shards (all : EveryShard (fun one => All Wellborn one.runtime) engine) (ord : Fin shardCount → Order)
    (now : UInt64) :
    restoreActors (engine.worldSnapshotForPersist ord now) = (List.finRange shardCount).flatMap fun shard =>
      (HashMap.values (ord shard) (engine.shards shard).runtime.actors).map restoredSpec := by
  simp only [restoreActors, ShardedEngine.worldSnapshotForPersist, List.map_flatMap]
  apply List.flatMap_congr
  intro shard _
  exact restoreActors_snapshot (all shard) (ord shard) now

theorem mem_restored (all : EveryShard (fun one => All Wellborn one.runtime) engine) (ord : Fin shardCount → Order)
    (now : UInt64) :
    spec ∈ restoreActors (engine.worldSnapshotForPersist ord now) ↔
      ∃ shard id actor, (engine.shards shard).runtime.actors.lookup id = some actor ∧ spec = restoredSpec actor := by
  rw [restoreActors_shards all, List.mem_flatMap]
  constructor
  · rintro ⟨shard, -, member⟩
    obtain ⟨actor, listed, rfl⟩ := List.mem_map.mp member
    obtain ⟨id, found⟩ := HashMap.mem_values.mp listed
    exact ⟨shard, id, actor, found, rfl⟩
  · rintro ⟨shard, id, actor, found, rfl⟩
    exact ⟨shard, List.mem_finRange shard, List.mem_map_of_mem (HashMap.mem_values.mpr ⟨id, found⟩)⟩

theorem restored_distinct (apart : Apart engine) (all : EveryShard (fun one => All Wellborn one.runtime) engine)
    (ord : Fin shardCount → Order) (now : UInt64) :
    ((restoreActors (engine.worldSnapshotForPersist ord now)).map ActorSpec.id).Nodup := by
  rw [restoreActors_shards all, List.map_flatMap, List.nodup_flatMap]
  constructor
  · intro shard _
    rw [← restoreActors_snapshot (all shard) (ord shard) now]
    exact Recovery.restored_distinct (all shard) (ord shard) now
  · refine (List.nodup_finRange shardCount).imp fun {shard other} different => ?_
    have lives (shard : Fin shardCount) (id : ActorId)
        (member : id ∈ ((HashMap.values (ord shard) (engine.shards shard).runtime.actors).map restoredSpec).map ActorSpec.id) :
        id ∈ (engine.shards shard).runtime.actors := by
      rw [List.map_map, List.mem_map] at member
      obtain ⟨actor, listed, rfl⟩ := member
      obtain ⟨key, found⟩ := HashMap.mem_values.mp listed
      have named : (restoredSpec actor).id = key := (all shard key actor found).spec
      rw [Function.comp, named]
      exact HashMap.mem_of_lookup found
    intro id here there
    exact different (apart id shard other (lives shard id here) (lives other id there))

/-! ## What is spawned -/

theorem spawnStandalone_lookup (engine : ShardedEngine shardCount) (spec : ActorSpec) (shard : Fin shardCount) (id : ActorId) :
    ((engine.spawnActorStandalone spec).2.shards shard).runtime.actors.lookup id =
      if shard = engine.shardIdx spec.position.x ∧ id = spec.id
      then some (newborn (engine.shards shard).runtime spec) else (engine.shards shard).runtime.actors.lookup id := by
  simp only [ShardedEngine.spawnActorStandalone, setShard_shards]
  by_cases here : shard = engine.shardIdx spec.position.x
  · subst here
    rw [if_pos rfl]
    refine (spawnActor_lookup _ spec id).trans ?_
    simp only [true_and]
  · rw [if_neg here, if_neg fun both => here both.1]

theorem spawnShards_shardIdx (specs : List ActorSpec) (engine : ShardedEngine shardCount) :
    (specs.foldl (fun engine spec => (engine.spawnActorStandalone spec).2) engine).shardIdx = engine.shardIdx := by
  induction specs generalizing engine with
  | nil => rfl
  | cons first rest ih => exact ih _

theorem spawnShards_other (specs : List ActorSpec) (engine : ShardedEngine shardCount) (shard : Fin shardCount)
    (absent : ∀ spec ∈ specs, ¬(shard = engine.shardIdx spec.position.x ∧ id = spec.id)) :
    ((specs.foldl (fun engine spec => (engine.spawnActorStandalone spec).2) engine).shards shard).runtime.actors.lookup id =
      (engine.shards shard).runtime.actors.lookup id := by
  induction specs generalizing engine with
  | nil => rfl
  | cons first rest ih =>
      have later : ∀ spec ∈ rest, ¬(shard = engine.shardIdx spec.position.x ∧ id = spec.id) :=
        fun spec member => absent spec (List.mem_cons_of_mem _ member)
      rw [List.foldl_cons, ih (engine.spawnActorStandalone first).2 later, spawnStandalone_lookup, if_neg (absent first List.mem_cons_self)]

theorem spawnShards_lookup (specs : List ActorSpec) (engine : ShardedEngine shardCount)
    (distinct : (specs.map ActorSpec.id).Nodup) (member : spec ∈ specs) :
    ∃ rt, ((specs.foldl (fun engine spec => (engine.spawnActorStandalone spec).2) engine).shards
      (engine.shardIdx spec.position.x)).runtime.actors.lookup spec.id = some (newborn rt spec) := by
  induction specs generalizing engine with
  | nil => cases member
  | cons first rest ih =>
      rw [List.map_cons, List.nodup_cons] at distinct
      rw [List.foldl_cons]
      cases List.mem_cons.mp member with
      | inr later => exact ih (engine.spawnActorStandalone first).2 distinct.2 later
      | inl now =>
          subst now
          refine ⟨(engine.shards (engine.shardIdx spec.position.x)).runtime, ?_⟩
          rw [spawnShards_other, spawnStandalone_lookup, if_pos ⟨rfl, rfl⟩]
          rintro other later ⟨-, same⟩
          exact distinct.1 (same ▸ List.mem_map_of_mem later)

theorem spawnStandalone_actorCount (engine : ShardedEngine shardCount)
    (fresh : ∀ shard, spec.id ∉ (engine.shards shard).runtime.actors) :
    (engine.spawnActorStandalone spec).2.actorCount = engine.actorCount + 1 := by
  have size (shard : Fin shardCount) : ((engine.spawnActorStandalone spec).2.shards shard).actorCount =
      (engine.shards shard).actorCount + if shard = engine.shardIdx spec.position.x then 1 else 0 := by
    simp only [ShardedEngine.spawnActorStandalone, setShard_shards]
    split_ifs with here
    · subst here
      exact HashMap.size_insert_of_notMem (fresh _) (newborn (engine.shards (engine.shardIdx spec.position.x)).runtime spec)
    · rfl
  simp only [ShardedEngine.actorCount, ← Fin.sum_univ_def, size, Finset.sum_add_distrib, Finset.sum_ite_eq',
    Finset.mem_univ, if_true]

theorem spawnShards_actorCount (specs : List ActorSpec) (engine : ShardedEngine shardCount)
    (distinct : (specs.map ActorSpec.id).Nodup)
    (fresh : ∀ spec ∈ specs, ∀ shard, spec.id ∉ (engine.shards shard).runtime.actors) :
    (specs.foldl (fun engine spec => (engine.spawnActorStandalone spec).2) engine).actorCount =
      engine.actorCount + specs.length := by
  induction specs generalizing engine with
  | nil => rfl
  | cons first rest ih =>
      rw [List.map_cons, List.nodup_cons] at distinct
      have later : ∀ spec ∈ rest, ∀ shard, spec.id ∉ ((engine.spawnActorStandalone first).2.shards shard).runtime.actors := by
        intro spec member shard
        rw [← AList.lookup_isSome, spawnStandalone_lookup, if_neg, AList.lookup_isSome]
        · exact fresh spec (List.mem_cons_of_mem _ member) shard
        · rintro ⟨-, same⟩
          exact distinct.1 (same ▸ List.mem_map_of_mem member)
      rw [List.foldl_cons, ih _ distinct.2 later, spawnStandalone_actorCount engine (fresh first List.mem_cons_self),
        List.length_cons]
      omega

/-! ## The restart -/

theorem returned_newborn (rt : ActorRuntime) (actor : Actor) : Returned actor (newborn rt (restoredSpec actor)) :=
  ⟨rfl, rfl, rfl, rfl, rfl, rfl⟩

section Restart
variable {restarted : Nat} (apart : Apart engine) (all : EveryShard (fun one => All Wellborn one.runtime) engine)
  (ord : Fin shardCount → Order) (now : UInt64)
include apart all

theorem rebuilt_shards (cfg : WorldConfig) (atLeastOne : restarted ≥ 1) :
    let restored := coldStartShards cfg atLeastOne (engine.worldSnapshotForPersist ord now)
    Rebuilt engine restored.shards restored.shardIdx := by
  intro restored
  have place : restored.shardIdx = (ShardedEngine.new cfg atLeastOne).shardIdx := spawnShards_shardIdx _ _
  have distinct := restored_distinct apart all ord now
  constructor
  · intro shard id actor found
    have member := (mem_restored all ord now).mpr ⟨shard, id, actor, found, rfl⟩
    obtain ⟨rt, lookup⟩ := spawnShards_lookup _ (ShardedEngine.new cfg atLeastOne) distinct member
    have named : (restoredSpec actor).id = id := (all shard id actor found).spec
    rw [named] at lookup
    rw [place]
    exact ⟨_, lookup, returned_newborn rt actor⟩
  · intro there id back found
    by_contra nobody
    have absent : ∀ spec ∈ restoreActors (engine.worldSnapshotForPersist ord now),
        ¬(there = (ShardedEngine.new cfg atLeastOne).shardIdx spec.position.x ∧ id = spec.id) := by
      rintro spec member ⟨here, rfl⟩
      obtain ⟨shard, id, actor, live, rfl⟩ := (mem_restored all ord now).mp member
      have named : (restoredSpec actor).id = id := (all shard id actor live).spec
      exact nobody ⟨shard, actor, named ▸ live, place ▸ here⟩
    have nothing := (spawnShards_other _ (ShardedEngine.new cfg atLeastOne) there absent).symm.trans found
    exact AList.notMem_empty id (HashMap.mem_of_lookup nothing)

theorem actorCount_shards (cfg : WorldConfig) (atLeastOne : restarted ≥ 1) :
    (coldStartShards cfg atLeastOne (engine.worldSnapshotForPersist ord now)).actorCount = engine.actorCount := by
  have empty : (ShardedEngine.new cfg atLeastOne).actorCount = 0 := by
    simp [ShardedEngine.actorCount, ShardedEngine.new, WorldEngine.actorCount, ActorRuntime.actorCount, WorldEngine.new,
      ActorRuntime.new, HashMap.size]
  have fresh : ∀ spec ∈ restoreActors (engine.worldSnapshotForPersist ord now), ∀ shard,
      spec.id ∉ ((ShardedEngine.new cfg atLeastOne).shards shard).runtime.actors :=
    fun spec _ _ => AList.notMem_empty spec.id
  rw [coldStartShards, spawnShards_actorCount _ _ (restored_distinct apart all ord now) fresh, empty, Nat.zero_add,
    restoreActors_shards all, List.length_flatMap]
  apply congrArg List.sum
  apply List.map_congr_left
  intro shard _
  rw [List.length_map, HashMap.values, List.length_map, ((ord shard).perm _).length_eq]
  rfl

theorem rebuilt_single (cfg : WorldConfig) :
    Rebuilt engine (fun _ : Unit => coldStart cfg (engine.worldSnapshotForPersist ord now)) fun _ => () := by
  have distinct := restored_distinct apart all ord now
  constructor
  · intro shard id actor found
    have member := (mem_restored all ord now).mpr ⟨shard, id, actor, found, rfl⟩
    obtain ⟨rt, lookup⟩ := spawnAll_lookup _ (WorldEngine.new cfg) distinct member
    have named : (restoredSpec actor).id = id := (all shard id actor found).spec
    rw [named] at lookup
    exact ⟨_, lookup, returned_newborn rt actor⟩
  · intro there id back found
    by_cases listed : id ∈ (restoreActors (engine.worldSnapshotForPersist ord now)).map ActorSpec.id
    · obtain ⟨spec, member, rfl⟩ := List.mem_map.mp listed
      obtain ⟨shard, id, actor, live, rfl⟩ := (mem_restored all ord now).mp member
      have named : (restoredSpec actor).id = id := (all shard id actor live).spec
      exact ⟨shard, actor, named ▸ live, rfl⟩
    · rw [coldStart, spawnAll_other _ _ listed] at found
      exact absurd (HashMap.mem_of_lookup found) (AList.notMem_empty id)

end Restart

theorem any_shard_count_restores (codec : Codec) (cfg : WorldConfig) (atLeastOne : shardCount ≥ 1)
    (engine : ShardedEngine shardCount) (reachable : ShardReachable cfg atLeastOne FreshIds engine)
    (ord : Fin shardCount → Order) (now : UInt64) (next : WorldConfig) :
    ∃ snapshot, rereadShards codec engine ord now = some snapshot ∧ snapshot.tick = engine.globalTick ∧
      Rebuilt engine (fun _ : Unit => coldStart next snapshot) (fun _ => ()) ∧
      ∀ (restarted : Nat) (some : restarted ≥ 1),
        Rebuilt engine (coldStartShards next some snapshot).shards (coldStartShards next some snapshot).shardIdx ∧
        (coldStartShards next some snapshot).actorCount = engine.actorCount := by
  have apart := apart_reachable reachable
  have all := wellborn_shards reachable
  refine ⟨engine.worldSnapshotForPersist ord now, codec.deserialize_serialize _, rfl, ?_, ?_⟩
  · exact rebuilt_single apart all ord now next
  · intro restarted some
    exact ⟨rebuilt_shards apart all ord now next some, actorCount_shards apart all ord now next some⟩

-- actor 1 has walked out of its band; after the restart it is in another shard
def wanderings : List (ShardCall 2) :=
  [.spawnActorStandalone (villager 1 ⟨500, 500⟩), .spawnActorStandalone (villager 2 ⟨9000, 500⟩),
    .send ⟨⟨0, Nat.zero_lt_two⟩, ⟨⟨1⟩, 0⟩⟩ (.Move ⟨6000, 500⟩), .tick (fun _ => .stored) fun _ _ => 0]

theorem wandered_reachable : ShardReachable .default (by decide) FreshIds (afterCalls wanderings) :=
  reachable_afterCalls (by decide +kernel)

theorem three_shards_restore_two :
    ∃ (snapshot : WorldSnapshot) (restored : ShardedEngine 3),
      rereadShards tagged (afterCalls wanderings) (fun _ => .stored) 0 = some snapshot ∧ snapshot.tick = 1 ∧
      restored = coldStartShards .default (by decide) snapshot ∧
      Rebuilt (afterCalls wanderings) restored.shards restored.shardIdx ∧ restored.actorCount = 2 := by
  obtain ⟨snapshot, stored, tick, -, shards⟩ :=
    any_shard_count_restores tagged .default (by decide) _ wandered_reachable (fun _ => .stored) 0 .default
  obtain ⟨rebuilt, count⟩ := shards 3 (by decide)
  have two : (afterCalls wanderings).actorCount = 2 := by decide +kernel
  exact ⟨snapshot, _, stored, tick, rfl, rebuilt, count.trans two⟩

end LiveWorld.Proof.Resharding

import LiveWorld.Proof.Recovery
import LiveWorld.Proof.Shard.Directives
import LiveWorld.Proof.Shard.Mirror

/-!
# Sharding preserves a peaceful world

The shards mirror the single engine: they tick together, hold the same actors, and the routing table leads from each
session to the shard of its queue and of its actor. Every call keeps this, wherever the actors wander.
-/

namespace LiveWorld.Proof.Shard
open HashTable Spec Proof.Runtime Proof.Engine
variable {cfg : WorldConfig} {shardCount : Nat} {atLeastOne : shardCount ≥ 1} {t : Twin shardCount}

/-! ## Ticking together -/

structure InStep (t : Twin shardCount) : Prop where
  single : Calm t.single
  shards : EveryShard Calm t.sharded
  ticks : ∀ shard, (t.sharded.shards shard).tickCount = t.single.tickCount
  globalTick : t.sharded.globalTick = t.single.tickCount
  cellSize : ∀ shard, (t.sharded.shards shard).runtime.grid.cellSize = t.single.runtime.grid.cellSize

structure Stepped (before after : WorldEngine) (ticks : Bool) : Prop where
  calm : Calm after
  tickCount : after.tickCount = if ticks then before.tickCount + 1 else before.tickCount
  cellSize : after.runtime.grid.cellSize = before.runtime.grid.cellSize

theorem Stepped.call {one : WorldEngine} (calm : Calm one) (call : EngineCall)
    (peaceful : ∀ msg ∈ call.sent, Peaceful msg) : Stepped one (call.apply one) call.isTick :=
  ⟨calm.call call peaceful, tickCount_call call one, cellSize_call call calm.wired⟩

theorem Stepped.stay {one : WorldEngine} (calm : Calm one) : Stepped one one false := ⟨calm, rfl, rfl⟩

theorem InStep.stepped (inv : InStep t) {call : ApiCall shardCount} (peaceful : ∀ msg ∈ call.sent, Peaceful msg) :
    Stepped t.single (t.next call).single call.isTick := by
  rcases next_single t call with ⟨same, none⟩ | ⟨one, same, sent, ticks⟩
  · rw [same, none]
    exact .stay inv.single
  · rw [same, ← ticks]
    exact .call inv.single one (sent ▸ peaceful)

theorem InStep.shardStepped (inv : InStep t) {call : ApiCall shardCount} (peaceful : ∀ msg ∈ call.sent, Peaceful msg)
    (shard : Fin shardCount) :
    Stepped (t.sharded.shards shard) ((t.next call).sharded.shards shard) call.isTick := by
  rcases next_sharded t call with ⟨same, none⟩ | ⟨all, same, sent, ticks⟩
  · rw [same, none]
    exact .stay (inv.shards shard)
  · rw [same, ← ticks]
    have taken := taken t.sharded all shard
    generalize (all.apply t.sharded).shards shard = result at taken
    cases taken with
    | stays other =>
        rw [other]
        exact .stay (inv.shards shard)
    | takes one projects =>
        rw [← projects.ticks]
        refine .call (inv.shards shard) one fun msg member => peaceful msg ?_
        rw [← sent]
        exact projects.sent msg member

theorem globalTick_next (t : Twin shardCount) (call : ApiCall shardCount) :
    (t.next call).sharded.globalTick = if call.isTick then t.sharded.globalTick + 1 else t.sharded.globalTick := by
  rcases next_sharded t call with ⟨same, none⟩ | ⟨all, same, -, ticks⟩
  · rw [same, none]
    rfl
  · rw [same, globalTick_apply, ticks]

theorem InStep.next (inv : InStep t) {call : ApiCall shardCount} (peaceful : ∀ msg ∈ call.sent, Peaceful msg) :
    InStep (t.next call) := by
  have single := inv.stepped peaceful
  have shards := inv.shardStepped peaceful
  refine ⟨single.calm, fun shard => (shards shard).calm, fun shard => ?_, ?_, fun shard => ?_⟩
  · rw [single.tickCount, (shards shard).tickCount, inv.ticks]
  · rw [single.tickCount, globalTick_next, inv.globalTick]
  · rw [single.cellSize, (shards shard).cellSize, inv.cellSize]

/-! ## The same actors -/

abbrev Mirrors (t : Twin shardCount) : Prop :=
  Mirrored t.single.runtime (fun shard => (t.sharded.shards shard).runtime) t.handles

theorem hasRoom_view {one : WorldEngine} {id : ActorId} {seen : Actor × List ActorMessage}
    (found : view one.runtime id = some seen) : HasRoom one id ↔ seen.2.length < queueSize - 1 := by
  obtain ⟨actor, live, rfl⟩ := Option.map_eq_some_iff.mp found
  constructor
  · intro room
    obtain ⟨other, there, room⟩ := room
    rw [live] at there
    rw [Option.some.inj there]
    exact room
  · exact fun room => ⟨actor, live, room⟩

theorem effected_sendToAny (engine : ShardedEngine shardCount) (id : ActorId) (msg : ActorMessage)
    (order : List (Fin shardCount)) (shard : Fin shardCount) :
    Effected (· = msg) (engine.shards shard) ((engine.sendToAny id msg order).shards shard) := by
  rw [sendToAny_eq]
  cases order.find? fun idx => ((engine.shards idx).sendToActor id msg).1 with
  | none => exact .refl _
  | some idx =>
      simp only [setShard_shards]
      split_ifs with here
      · rw [here]
        exact effected_sendToActor _ id msg
      · exact .refl _

-- the shard that takes the message is the one with the actor; a full inbox takes it nowhere
theorem Mirrors.view_sendToAny (mirrors : Mirrors t) (inv : InStep t) (target : ActorId) (msg : ActorMessage)
    (shard : Fin shardCount) (id : ActorId) :
    view ((t.sharded.sendToAny target msg (List.finRange shardCount)).shards shard).runtime id =
      (view (t.sharded.shards shard).runtime id).map (if id = target then offer msg else fun seen => seen) := by
  have taken (shard : Fin shardCount) := sendToActor_taken (inv.shards shard).wired target msg
  rw [sendToAny_eq]
  cases found : (List.finRange shardCount).find? fun idx => ((t.sharded.shards idx).sendToActor target msg).1 with
  | none =>
      have nobody := List.find?_eq_none.mp found shard (List.mem_finRange shard)
      simp only
      cases seen : view (t.sharded.shards shard).runtime id with
      | none => rfl
      | some this =>
          split_ifs with mine
          · subst mine
            rw [taken, hasRoom_view seen] at nobody
            rw [Option.map_some, offer, if_neg nobody]
          · rfl
  | some idx =>
      simp only [setShard_shards]
      split_ifs with here mine mine
      · rw [here, view_sendToActor (inv.shards idx).wired, if_pos mine]
      · rw [here, view_sendToActor (inv.shards idx).wired, if_neg mine]
      · have took := List.find?_some found
        obtain ⟨actor, live, -⟩ := (taken idx).mp took
        rw [mine, view_none fun there => here (mirrors.one there (HashMap.mem_of_lookup live))]
        rfl
      · exact Option.map_id'.symm

theorem wire_of_actors {rt rt' : ActorRuntime} (same : rt'.actors = rt.actors) (id : ActorId) :
    wire rt' id = wire rt id := by
  rw [wire, wire, same]

theorem Mirrors.forceMove (mirrors : Mirrors t) (inv : InStep t) (target : ActorId) (dest : Position) :
    Mirrors (t.next (.applyDirective (.ForceMove target dest))) := by
  have moved := effected_sendToActor t.single target (.Move dest)
  have frame := effected_sendToAny t.sharded target (.Move dest) (List.finRange shardCount)
  exact mirrors.keep _ (view_sendToActor inv.single.wired target (.Move dest))
    (mirrors.view_sendToAny inv target (.Move dest)) (wire_of_actors moved.actors)
    (fun shard => wire_of_actors (frame shard).actors) moved.next fun shard => (frame shard).next

theorem Mirrors.tick (mirrors : Mirrors t) (inv : InStep t) (ord : Order) (clock : SessionId → UInt64)
    (shardOrd : Fin shardCount → Order) (shardClock : Fin shardCount → SessionId → UInt64) :
    Mirrors (t.next (.tick ord clock shardOrd shardClock)) := by
  refine mirrors.keep (fun _ => advance t.single.runtime.grid.cellSize (t.single.tickCount + 1))
    (inv.single.view_tick ord clock) ?_ (inv.single.wire_tick ord clock)
    (fun shard => (inv.shards shard).wire_tick (shardOrd shard) (shardClock shard)) ?_ ?_
  · intro shard id
    rw [← inv.cellSize shard, ← inv.ticks shard]
    exact (inv.shards shard).view_tick (shardOrd shard) (shardClock shard) id
  · exact (undisturbed_tick t.single ord clock).next
  · exact fun shard => (undisturbed_tick (t.sharded.shards shard) (shardOrd shard) (shardClock shard)).next

theorem Mirrors.spawn (mirrors : Mirrors t) (inv : InStep t) {spec : ActorSpec} (fresh : spec.id ∉ t.single.runtime.actors)
    {after : Fin shardCount → WorldEngine} {one : WorldEngine} {idx : Fin shardCount}
    (spawned : one.runtime = ((t.sharded.shards idx).runtime.spawnActor spec).2)
    (others : ∀ shard, after shard = if shard = idx then one else t.sharded.shards shard) :
    Mirrored (t.single.runtime.spawnActor spec).2 (fun shard => (after shard).runtime)
      (t.handles ++ [((t.single.runtime.spawnActor spec).1,
        ⟨idx, ((t.sharded.shards idx).runtime.spawnActor spec).1⟩)]) := by
  refine Mirrored.spawn mirrors inv.single.wired (fun shard => (inv.shards shard).wired) inv.cellSize fresh ?_
  intro shard
  rw [others]
  split_ifs
  · exact spawned
  · rfl

/-! ## The same sessions -/

def present (engine : WorldEngine) (session : SessionId) : Option Unit :=
  (engine.sessionQueues.lookup session).map fun _ => ()

theorem present_isSome (engine : WorldEngine) (session : SessionId) :
    (present engine session).isSome ↔ session ∈ engine.sessionQueues := by
  rw [present, Option.isSome_map, AList.lookup_isSome]

theorem present_congr {before after : WorldEngine} {session : SessionId}
    (same : session ∈ after.sessionQueues ↔ session ∈ before.sessionQueues) : present after session = present before session := by
  rw [← present_isSome, ← present_isSome] at same
  cases one : present before session <;> cases two : present after session <;> simp_all

/-- The routing table leads each session to the shard that has its queue, and its actor. -/
structure Routed (t : Twin shardCount) : Prop where
  sessions : Split (present t.single) fun shard => present (t.sharded.shards shard)
  routed : ∀ session shard, t.sharded.sessionToShard.lookup session = some shard ↔
    session ∈ (t.sharded.shards shard).sessionQueues
  owner : ∀ session, t.single.sessionToActor.lookup session = t.owner session
  owners : Split t.owner fun shard session => (t.sharded.shards shard).sessionToActor.lookup session
  home : ∀ session shard id, (t.sharded.shards shard).sessionToActor.lookup session = some id →
    t.sharded.sessionToShard.lookup session = some shard ∧ id ∈ (t.sharded.shards shard).runtime.actors
  distinct : ∀ session session' id, t.owner session = some id → t.owner session' = some id → session = session'

theorem Routed.shard_owner (inv : Routed t) {session : SessionId} {shard : Fin shardCount}
    (routed : t.sharded.sessionToShard.lookup session = some shard) :
    (t.sharded.shards shard).sessionToActor.lookup session = t.owner session := by
  cases owned : t.owner session with
  | none => exact inv.owners.none owned shard
  | some id =>
      obtain ⟨there, found⟩ := (inv.owners.covers session id).mp owned
      have same := (inv.home session there id found).1
      rw [routed, Option.some.injEq] at same
      rw [same]
      exact found

theorem Routed.unrouted (inv : Routed t) {session : SessionId} (unrouted : t.sharded.sessionToShard.lookup session = none) :
    t.owner session = none ∧ session ∉ t.single.sessionQueues := by
  constructor
  · cases owned : t.owner session with
    | none => rfl
    | some id =>
        obtain ⟨there, found⟩ := (inv.owners.covers session id).mp owned
        rw [(inv.home session there id found).1] at unrouted
        cases unrouted
  · intro member
    obtain ⟨shard, there⟩ := (inv.sessions.isSome_iff session).mp ((present_isSome _ _).mpr member)
    rw [present_isSome, ← inv.routed, unrouted] at there
    cases there

theorem Routed.elsewhere (inv : Routed t) {session : SessionId} {shard other : Fin shardCount}
    (routed : t.sharded.sessionToShard.lookup session = some shard) (away : other ≠ shard) :
    session ∉ (t.sharded.shards other).sessionQueues ∧
      (t.sharded.shards other).sessionToActor.lookup session = none := by
  constructor
  · intro member
    rw [← inv.routed, routed, Option.some.injEq] at member
    exact away member.symm
  · cases owned : (t.sharded.shards other).sessionToActor.lookup session with
    | none => rfl
    | some id =>
        have there := (inv.home session other id owned).1
        rw [routed, Option.some.injEq] at there
        exact absurd there.symm away

-- the sessions stay as they are, and nobody leaves
theorem Routed.keep {after : Twin shardCount} (inv : Routed t)
    (queues : ∀ session, session ∈ after.single.sessionQueues ↔ session ∈ t.single.sessionQueues)
    (shardQueues : ∀ shard session, session ∈ (after.sharded.shards shard).sessionQueues ↔
      session ∈ (t.sharded.shards shard).sessionQueues)
    (table : after.sharded.sessionToShard = t.sharded.sessionToShard)
    (owners : ∀ session, after.single.sessionToActor.lookup session = t.single.sessionToActor.lookup session)
    (shardOwners : ∀ shard, (after.sharded.shards shard).sessionToActor = (t.sharded.shards shard).sessionToActor)
    (owner : after.owner = t.owner)
    (actors : ∀ shard id, id ∈ (t.sharded.shards shard).runtime.actors → id ∈ (after.sharded.shards shard).runtime.actors) :
    Routed after := by
  refine ⟨?_, ?_, ?_, ?_, ?_, ?_⟩
  · refine inv.sessions.map (fun _ here => here) (fun session => ?_) fun shard session => ?_
    · rw [Option.map_id']
      exact present_congr (queues session)
    · rw [Option.map_id']
      exact present_congr (shardQueues shard session)
  · intro session shard
    rw [table, shardQueues]
    exact inv.routed session shard
  · intro session
    rw [owners, owner]
    exact inv.owner session
  · simp only [owner, shardOwners]
    exact inv.owners
  · intro session shard id owned
    rw [shardOwners] at owned
    rw [table]
    exact ⟨(inv.home session shard id owned).1, actors shard id (inv.home session shard id owned).2⟩
  · rw [owner]
    exact inv.distinct

theorem Routed.undisturbed {after : Twin shardCount} (inv : Routed t) (single : Undisturbed t.single after.single)
    (shards : ∀ shard, Undisturbed (t.sharded.shards shard) (after.sharded.shards shard))
    (table : after.sharded.sessionToShard = t.sharded.sessionToShard) (owner : after.owner = t.owner)
    (actors : ∀ shard id, id ∈ (t.sharded.shards shard).runtime.actors → id ∈ (after.sharded.shards shard).runtime.actors) :
    Routed after :=
  inv.keep single.queues (fun shard => (shards shard).queues) table (fun _ => by rw [single.owners])
    (fun shard => (shards shard).owners) owner actors

theorem mem_spawn {rt : ActorRuntime} {spec : ActorSpec} {id : ActorId} :
    id ∈ (rt.spawnActor spec).2.actors ↔ id = spec.id ∨ id ∈ rt.actors := by
  change id ∈ rt.actors.insert _ _ ↔ _
  rw [AList.mem_insert]

structure Simulates (t : Twin shardCount) : Prop where
  inStep : InStep t
  mirrors : Mirrors t
  routed : Routed t

theorem Simulates.ownerLives (inv : Simulates t) {session : SessionId} {id : ActorId} (owned : t.owner session = some id) :
    id ∈ t.single.runtime.actors := by
  obtain ⟨shard, found⟩ := (inv.routed.owners.covers session id).mp owned
  exact (inv.mirrors.live id).mpr ⟨shard, (inv.routed.home session shard id found).2⟩

theorem Routed.spawnActorForSession (inv : Simulates t) (ord shardOrd : Order) {spec : ActorSpec} {session : SessionId}
    (newActor : spec.id ∉ t.single.runtime.actors) (newSession : session ∉ t.single.sessionQueues) :
    Routed (t.next (.spawnActorForSession ord shardOrd spec session)) := by
  have routed := inv.routed
  have absent (shard : Fin shardCount) : session ∉ (t.sharded.shards shard).sessionQueues := by
    intro member
    exact newSession ((present_isSome _ _).mp ((routed.sessions.isSome_iff session).mpr
      ⟨shard, (present_isSome _ _).mpr member⟩))
  have unowned (shard : Fin shardCount) : (t.sharded.shards shard).sessionToActor.lookup session = none := by
    cases owned : (t.sharded.shards shard).sessionToActor.lookup session with
    | none => rfl
    | some id => exact absurd ((routed.routed _ _).mp (routed.home session shard id owned).1) (absent shard)
  have elsewhere {shard : Fin shardCount} (away : shard ≠ t.sharded.shardIdx spec.position.x) :
      (t.next (.spawnActorForSession ord shardOrd spec session)).sharded.shards shard = t.sharded.shards shard :=
    (setShard_shards t.sharded _ shard _).trans (if_neg away)
  have here : (t.next (.spawnActorForSession ord shardOrd spec session)).sharded.shards (t.sharded.shardIdx spec.position.x) =
      ((t.sharded.shards (t.sharded.shardIdx spec.position.x)).spawnActorForSession shardOrd spec session).2 :=
    (setShard_shards t.sharded _ _ _).trans (if_pos rfl)
  have queue (engine : WorldEngine) (ord : Order) (other : SessionId) :
      present (engine.spawnActorForSession ord spec session).2 other =
        if other = session then some () else present engine other := by
    change ((engine.sessionQueues.insert session []).lookup other).map _ = _
    rw [HashMap.lookup_insert_eq]
    split_ifs <;> rfl
  have owner (engine : WorldEngine) (ord : Order) (other : SessionId) :
      (engine.spawnActorForSession ord spec session).2.sessionToActor.lookup other =
        if other = session then some spec.id else engine.sessionToActor.lookup other :=
    HashMap.lookup_insert_eq _ _ _ _
  have table (other : SessionId) :
      (t.next (.spawnActorForSession ord shardOrd spec session)).sharded.sessionToShard.lookup other =
        if other = session then some (t.sharded.shardIdx spec.position.x)
        else t.sharded.sessionToShard.lookup other :=
    HashMap.lookup_insert_eq _ _ _ _
  have owner_update (other : SessionId) : (t.next (.spawnActorForSession ord shardOrd spec session)).owner other =
      if other = session then some spec.id else t.owner other :=
    Function.update_apply _ _ _ _
  refine ⟨?_, ?_, ?_, ?_, ?_, ?_⟩
  · refine routed.sessions.set (t.sharded.shardIdx spec.position.x) (fun shard _ => ?_) (queue t.single ord) ?_
    · rw [← Option.not_isSome_iff_eq_none, present_isSome]
      exact absent shard
    · intro shard other
      by_cases same : shard = t.sharded.shardIdx spec.position.x
      · subst same
        rw [here, queue]
        simp only [true_and]
      · rw [elsewhere same, if_neg fun both => same both.1]
  · intro other shard
    rw [table, ← present_isSome]
    by_cases same : shard = t.sharded.shardIdx spec.position.x
    · subst same
      rw [here, queue]
      split_ifs with mine
      · exact iff_of_true rfl rfl
      · rw [present_isSome]
        exact routed.routed other _
    · rw [elsewhere same, present_isSome]
      split_ifs with mine
      · rw [mine]
        exact iff_of_false (fun equal => same (Option.some.inj equal).symm) (absent shard)
      · exact routed.routed other shard
  · intro other
    rw [owner_update]
    refine (owner t.single ord other).trans ?_
    rw [routed.owner]
  · refine routed.owners.set (t.sharded.shardIdx spec.position.x) (fun shard _ => unowned shard) owner_update ?_
    intro shard other
    by_cases same : shard = t.sharded.shardIdx spec.position.x
    · subst same
      rw [here, owner]
      simp only [true_and]
    · rw [elsewhere same, if_neg fun both => same both.1]
  · intro other shard id owned
    rw [table]
    by_cases same : shard = t.sharded.shardIdx spec.position.x
    · subst same
      rw [here] at owned ⊢
      rw [owner] at owned
      have spawned : id ∈ ((t.sharded.shards (t.sharded.shardIdx spec.position.x)).runtime.spawnActor spec).2.actors ↔ _ :=
        mem_spawn
      split_ifs at owned ⊢ with mine
      · exact ⟨rfl, spawned.mpr (.inl (Option.some.inj owned).symm)⟩
      · exact ⟨(routed.home other _ id owned).1, spawned.mpr (.inr (routed.home other _ id owned).2)⟩
    · rw [elsewhere same] at owned ⊢
      rw [if_neg fun mine => by rw [mine, unowned shard] at owned; cases owned]
      exact routed.home other shard id owned
  · intro one two id first second
    rw [owner_update] at first second
    split_ifs at first second with mine mine' mine'
    · exact mine.trans mine'.symm
    · exact absurd (inv.ownerLives second) (Option.some.inj first ▸ newActor)
    · exact absurd (inv.ownerLives first) (Option.some.inj second ▸ newActor)
    · exact routed.distinct one two id first second

theorem Routed.spawnActorStandalone (inv : Routed t) (spec : ActorSpec) :
    Routed (t.next (.spawnActorStandalone spec)) := by
  have shards (shard : Fin shardCount) : (t.next (.spawnActorStandalone spec)).sharded.shards shard =
      if shard = t.sharded.shardIdx spec.position.x
      then ((t.sharded.shards (t.sharded.shardIdx spec.position.x)).spawnActorStandalone spec).2
      else t.sharded.shards shard := setShard_shards _ _ _ _
  refine inv.keep (fun _ => Iff.rfl) (fun shard session => ?_) rfl (fun _ => rfl) (fun shard => ?_) rfl fun shard id live => ?_
  · rw [shards]
    split_ifs with here
    · rw [here]
      rfl
    · rfl
  · rw [shards]
    split_ifs with here
    · rw [here]
      rfl
    · rfl
  · rw [shards]
    split_ifs with here
    · rw [here] at live
      exact mem_spawn.mpr (.inr live)
    · exact live

/-! ## Removing a session -/

theorem removeSession_cases (engine : WorldEngine) (session : SessionId) (despawn : Bool) :
    (engine.removeSession session despawn).runtime =
      match if despawn then engine.sessionToActor.lookup session else none with
      | some id => (engine.runtime.despawnActor id).2
      | none => engine.runtime := by
  unfold WorldEngine.removeSession
  cases despawn with
  | false => rfl
  | true => cases engine.sessionToActor.lookup session <;> rfl

theorem removeSession_routed {engine : ShardedEngine shardCount} {session : SessionId} {idx : Fin shardCount}
    (routed : engine.sessionToShard.lookup session = some idx) (despawn : Bool) (shard : Fin shardCount) :
    (engine.removeSession session despawn).shards shard =
      if shard = idx then (engine.shards idx).removeSession session despawn else engine.shards shard := by
  rw [ShardedEngine.removeSession, routed]
  exact setShard_shards engine idx shard _

theorem removeSession_unrouted {engine : ShardedEngine shardCount} {session : SessionId}
    (unrouted : engine.sessionToShard.lookup session = none) (despawn : Bool) :
    engine.removeSession session despawn = engine := by
  rw [ShardedEngine.removeSession, unrouted]

theorem removeSession_table (engine : ShardedEngine shardCount) (session : SessionId) (despawn : Bool) (other : SessionId) :
    (engine.removeSession session despawn).sessionToShard.lookup other =
      if other = session then none else engine.sessionToShard.lookup other := by
  unfold ShardedEngine.removeSession
  cases routed : engine.sessionToShard.lookup session with
  | some idx => exact HashMap.lookup_erase_eq _ _ _
  | none =>
      split_ifs with same
      · rw [same]
        exact routed
      · rfl

theorem Simulates.home (inv : Simulates t) {session : SessionId} {id : ActorId} {idx shard : Fin shardCount}
    (routed : t.sharded.sessionToShard.lookup session = some idx) (owned : t.owner session = some id)
    (away : shard ≠ idx) : id ∉ (t.sharded.shards shard).runtime.actors := by
  have here := (inv.routed.home session idx id ((inv.routed.shard_owner routed).trans owned)).2
  exact fun there => away (inv.mirrors.one there here)

theorem Mirrors.removeSession (inv : Simulates t) (session : SessionId) (despawn : Bool) :
    Mirrors (t.next (.removeSession session despawn)) := by
  have single := removeSession_cases t.single session despawn
  rw [inv.routed.owner] at single
  cases routed : t.sharded.sessionToShard.lookup session with
  | none =>
      rw [(inv.routed.unrouted routed).1, ite_self] at single
      change Mirrored (t.single.removeSession session despawn).runtime
        (fun shard => ((t.sharded.removeSession session despawn).shards shard).runtime) t.handles
      rw [single, removeSession_unrouted routed]
      exact inv.mirrors
  | some idx =>
      have shard := removeSession_cases (t.sharded.shards idx) session despawn
      rw [inv.routed.shard_owner routed] at shard
      have shards (there : Fin shardCount) : ((t.sharded.removeSession session despawn).shards there).runtime =
          if there = idx then ((t.sharded.shards idx).removeSession session despawn).runtime
          else (t.sharded.shards there).runtime := by
        rw [removeSession_routed routed]
        split_ifs <;> rfl
      change Mirrored (t.single.removeSession session despawn).runtime
        (fun shard => ((t.sharded.removeSession session despawn).shards shard).runtime) t.handles
      cases leaver : if despawn then t.owner session else none with
      | none =>
          rw [leaver] at single shard
          have unchanged : (fun shard => ((t.sharded.removeSession session despawn).shards shard).runtime) =
              fun shard => (t.sharded.shards shard).runtime := by
            funext there
            rw [shards, shard]
            split_ifs with here
            · rw [here]
            · rfl
          rw [single, unchanged]
          exact inv.mirrors
      | some id =>
          rw [leaver] at single shard
          have owned : t.owner session = some id := by
            cases despawn with
            | true => exact leaver
            | false => cases leaver
          rw [single]
          refine inv.mirrors.despawn (fun there away => inv.home routed owned away) ?_
          intro there
          rw [shards, shard]

theorem Routed.removeSession (inv : Simulates t) (session : SessionId) (despawn : Bool) :
    Routed (t.next (.removeSession session despawn)) := by
  have owner_update (other : SessionId) : (t.next (.removeSession session despawn)).owner other =
      if other = session then none else t.owner other :=
    Function.update_apply _ _ _ _
  have queue (engine : WorldEngine) (other : SessionId) : present (engine.removeSession session despawn) other =
      if other = session then none else present engine other := by
    rw [present, removeSession_queues, HashMap.lookup_erase_eq]
    split_ifs <;> rfl
  cases routed : t.sharded.sessionToShard.lookup session with
  | none =>
      have unowned := inv.routed.unrouted routed
      have same : (t.next (.removeSession session despawn)).sharded = t.sharded := removeSession_unrouted routed despawn
      refine inv.routed.keep (fun other => ?_) (fun shard other => by rw [same]) (by rw [same]) (fun other => ?_)
        (fun shard => by rw [same]) ?_ fun shard id live => by rw [same]; exact live
      · change other ∈ (t.single.removeSession session despawn).sessionQueues ↔ _
        rw [removeSession_queues, AList.mem_erase]
        exact ⟨fun both => both.2, fun member => ⟨fun same => unowned.2 (same ▸ member), member⟩⟩
      · refine (removeSession_owners t.single session despawn other).trans ?_
        split_ifs with mine
        · rw [mine, inv.routed.owner, unowned.1]
        · rfl
      · funext other
        rw [owner_update]
        split_ifs with mine
        · rw [mine, unowned.1]
        · rfl
  | some idx =>
      have shards (shard : Fin shardCount) : (t.next (.removeSession session despawn)).sharded.shards shard = _ :=
        removeSession_routed routed despawn shard
      have table (other : SessionId) : (t.next (.removeSession session despawn)).sharded.sessionToShard.lookup other = _ :=
        removeSession_table t.sharded session despawn other
      refine ⟨?_, ?_, ?_, ?_, ?_, ?_⟩
      · refine inv.routed.sessions.set idx (fun shard away => ?_) (queue t.single) ?_
        · rw [← Option.not_isSome_iff_eq_none, present_isSome]
          exact (inv.routed.elsewhere routed away).1
        · intro shard other
          rw [shards]
          by_cases here : shard = idx
          · subst here
            rw [if_pos rfl, queue]
            simp only [true_and]
          · rw [if_neg here, if_neg fun both => here both.1]
      · intro other shard
        rw [table, shards, ← present_isSome]
        by_cases here : shard = idx
        · subst here
          rw [if_pos rfl, queue]
          split_ifs
          · exact iff_of_false (fun absurd => absurd) Bool.false_ne_true
          · rw [present_isSome]
            exact inv.routed.routed other shard
        · rw [if_neg here, present_isSome]
          split_ifs with mine
          · rw [mine]
            exact iff_of_false (fun absurd => absurd) (inv.routed.elsewhere routed here).1
          · exact inv.routed.routed other shard
      · intro other
        rw [owner_update]
        refine (removeSession_owners t.single session despawn other).trans ?_
        rw [inv.routed.owner]
      · refine inv.routed.owners.set idx (fun shard away => (inv.routed.elsewhere routed away).2) owner_update ?_
        intro shard other
        rw [shards]
        by_cases here : shard = idx
        · subst here
          rw [if_pos rfl, removeSession_owners]
          simp only [true_and]
        · rw [if_neg here, if_neg fun both => here both.1]
      · intro other shard id owned
        rw [table]
        rw [shards] at owned ⊢
        by_cases here : shard = idx
        · subst here
          rw [if_pos rfl] at owned ⊢
          rw [removeSession_owners] at owned
          split_ifs at owned ⊢ with mine
          obtain ⟨there, live⟩ := inv.routed.home other shard id owned
          refine ⟨there, ?_⟩
          rw [← AList.lookup_isSome, removeSession_lookup, if_neg, AList.lookup_isSome]
          · exact live
          · -- the actor of another session is another actor
            rintro ⟨-, leaver⟩
            exact mine (inv.routed.distinct other session id ((inv.routed.owners.covers other id).mpr ⟨shard, owned⟩)
              ((inv.routed.owners.covers session id).mpr ⟨shard, leaver⟩))
        · rw [if_neg here] at owned ⊢
          rw [if_neg fun mine => by
            rw [mine, (inv.routed.elsewhere routed here).2] at owned
            cases owned]
          exact inv.routed.home other shard id owned
      · intro one two id first second
        rw [owner_update] at first second
        split_ifs at first second
        exact inv.routed.distinct one two id first second

/-! ## Every call -/

theorem Simulates.drainSession (inv : Simulates t) (session : SessionId) :
    Mirrors (t.next (.drainSession session)) ∧ Routed (t.next (.drainSession session)) := by
  have runtime (engine : WorldEngine) : (engine.drainSession session).2.runtime = engine.runtime := by
    unfold WorldEngine.drainSession
    cases engine.sessionQueues.lookup session <;> rfl
  have shard (shard : Fin shardCount) : (t.sharded.drainSession session).2.shards shard = t.sharded.shards shard ∨
      (t.sharded.drainSession session).2.shards shard = ((t.sharded.shards shard).drainSession session).2 := by
    unfold ShardedEngine.drainSession
    cases t.sharded.sessionToShard.lookup session with
    | none => exact .inl rfl
    | some idx =>
        simp only [setShard_shards]
        split_ifs with here
        · rw [here]
          exact .inr rfl
        · exact .inl rfl
  have shardRuntime (there : Fin shardCount) :
      ((t.sharded.drainSession session).2.shards there).runtime = (t.sharded.shards there).runtime := by
    rcases shard there with same | same
    · rw [same]
    · rw [same, runtime]
  constructor
  · change Mirrored (t.single.drainSession session).2.runtime
      (fun there => ((t.sharded.drainSession session).2.shards there).runtime) t.handles
    simp only [runtime, shardRuntime]
    exact inv.mirrors
  · refine inv.routed.undisturbed (undisturbed_drainSession t.single session) (fun there => ?_) ?_ rfl fun there id live => ?_
    · change Undisturbed _ ((t.sharded.drainSession session).2.shards there)
      rcases shard there with same | same
      · rw [same]
        exact .refl _
      · rw [same]
        exact undisturbed_drainSession _ session
    · change (t.sharded.drainSession session).2.sessionToShard = _
      unfold ShardedEngine.drainSession
      cases t.sharded.sessionToShard.lookup session <;> rfl
    · change id ∈ ((t.sharded.drainSession session).2.shards there).runtime.actors
      rw [shardRuntime]
      exact live

theorem Simulates.applyDirective (inv : Simulates t) (directive : WorldDirective) :
    Mirrors (t.next (.applyDirective directive)) ∧ Routed (t.next (.applyDirective directive)) := by
  cases directive with
  | ForceMove id dest =>
      have frame := effected_sendToAny t.sharded id (.Move dest) (List.finRange shardCount)
      refine ⟨inv.mirrors.forceMove inv.inStep id dest, ?_⟩
      refine inv.routed.undisturbed (effected_sendToActor t.single id (.Move dest)).undisturbed
        (fun shard => (frame shard).undisturbed) ?_ rfl fun shard other live => ?_
      · change (t.sharded.sendToAny id (.Move dest) (List.finRange shardCount)).sessionToShard = _
        rw [sendToAny_eq]
        cases (List.finRange shardCount).find? fun idx => ((t.sharded.shards idx).sendToActor id (.Move dest)).1 <;> rfl
      · change other ∈ ((t.sharded.sendToAny id (.Move dest) (List.finRange shardCount)).shards shard).runtime.actors
        rw [(frame shard).actors]
        exact live
  | NarrativeEvent message =>
      refine ⟨inv.mirrors, inv.routed.keep ?_ (fun _ _ => Iff.rfl) rfl (fun _ => rfl) (fun _ => rfl) rfl fun _ _ live => live⟩
      exact fun session => HashMap.mem_mapValues _ _ session
  | FlagActor id reason => exact ⟨inv.mirrors, inv.routed⟩
  | EconomyAdjust resource delta => exact ⟨inv.mirrors, inv.routed⟩

theorem Simulates.send (inv : Simulates t) (spawn : Nat) (msg : ActorMessage) :
    Mirrors (t.next (.send spawn msg)) ∧ Routed (t.next (.send spawn msg)) := by
  simp only [Twin.next]
  cases returned : t.handles[spawn]? with
  | none => exact ⟨inv.mirrors, inv.routed⟩
  | some pair =>
      have shards (shard : Fin shardCount) : (t.sharded.send pair.2 msg).2.shards shard = _ :=
        setShard_shards t.sharded pair.2.shard shard _
      constructor
      · refine inv.mirrors.send (List.mem_of_getElem? returned) msg fun shard => ?_
        rw [shards]
        split_ifs <;> rfl
      · refine inv.routed.undisturbed (effected_send t.single pair.1 msg).undisturbed (fun shard => ?_) rfl rfl
          fun shard id live => ?_
        · rw [shards]
          split_ifs with here
          · rw [here]
            exact (effected_send _ pair.2.handle msg).undisturbed
          · exact .refl _
        · rw [shards]
          split_ifs with here
          · rw [here] at live
            exact live
          · exact live

theorem Simulates.next (inv : Simulates t) {call : ApiCall shardCount} (atPeace : AtPeace t call) :
    Simulates (t.next call) := by
  have inStep := inv.inStep.next atPeace.peaceful
  cases call with
  | spawnActorForSession ord shardOrd spec session =>
      have newActor := atPeace.newActor spec rfl
      refine ⟨inStep, ?_, Routed.spawnActorForSession inv ord shardOrd newActor (atPeace.newSession session rfl)⟩
      exact inv.mirrors.spawn inv.inStep newActor rfl fun shard => setShard_shards _ _ shard _
  | spawnActorStandalone spec =>
      refine ⟨inStep, ?_, inv.routed.spawnActorStandalone spec⟩
      exact inv.mirrors.spawn inv.inStep (atPeace.newActor spec rfl) rfl fun shard => setShard_shards _ _ shard _
  | removeSession session despawn => exact ⟨inStep, .removeSession inv session despawn, .removeSession inv session despawn⟩
  | send spawn msg => exact ⟨inStep, (inv.send spawn msg).1, (inv.send spawn msg).2⟩
  | applyDirective directive => exact ⟨inStep, (inv.applyDirective directive).1, (inv.applyDirective directive).2⟩
  | drainSession session => exact ⟨inStep, (inv.drainSession session).1, (inv.drainSession session).2⟩
  | tick ord clock shardOrd shardClock =>
      refine ⟨inStep, inv.mirrors.tick inv.inStep ord clock shardOrd shardClock, ?_⟩
      refine inv.routed.undisturbed (undisturbed_tick t.single ord clock)
        (fun shard => undisturbed_tick _ (shardOrd shard) (shardClock shard)) rfl rfl fun shard id live => ?_
      rw [← wire_isSome] at live ⊢
      exact ((inv.inStep.shards shard).wire_tick (shardOrd shard) (shardClock shard) id).symm ▸ live

theorem simulates_start (cfg : WorldConfig) (atLeastOne : shardCount ≥ 1) : Simulates (Twin.start cfg atLeastOne) := by
  refine ⟨⟨calm_new cfg, fun _ => calm_new cfg, fun _ => rfl, rfl, fun _ => rfl⟩, ⟨Split.empty, ?_⟩, ?_⟩
  · exact fun pair member => absurd member List.not_mem_nil
  · refine ⟨Split.empty, fun session shard => ?_, fun _ => rfl, Split.empty, ?_, ?_⟩
    · exact iff_of_false (fun found => by cases found) (AList.notMem_empty session)
    · exact fun session shard id owned => by cases owned
    · exact fun session session' id owned => by cases owned

theorem simulates_reachable (reachable : TwinReachable cfg atLeastOne AtPeace t) : Simulates t := by
  refine reachable.invariant ?_ ?_
  · intro t first
    subst first
    exact simulates_start cfg atLeastOne
  · intro t call after inv atPeace moved
    cases moved
    exact inv.next atPeace

/-! ## The same world -/

theorem Mirrors.perm (mirrors : Mirrors t) {β : Type} (f : Actor → β) (same : ∀ actor, f (unwired actor) = f actor)
    (ord : Order) (shardOrd : Fin shardCount → Order) :
    ((HashMap.values ord t.single.runtime.actors).map f).Perm ((List.finRange shardCount).flatMap fun shard =>
      (HashMap.values (shardOrd shard) (t.sharded.shards shard).runtime.actors).map f) := by
  have split : Split (fun id => (t.single.runtime.actors.lookup id).map f) fun shard id =>
      ((t.sharded.shards shard).runtime.actors.lookup id).map f := by
    have seen (rt : ActorRuntime) (id : ActorId) :
        (rt.actors.lookup id).map f = (view rt id).map fun seen => f seen.1 := by
      rw [view, Option.map_map]
      congr 1
      funext actor
      exact (same actor).symm
    exact mirrors.views.map _ (seen _) fun shard => seen _
  have visited (ord : Order) (m : HashMap ActorId Actor) :
      ((HashMap.values ord m).map f).Perm (m.entries.map fun entry => f entry.2) := by
    rw [HashMap.values, List.map_map]
    exact (ord.perm m.entries).map _
  exact (visited ord _).trans (split.perm.trans
    (List.Perm.flatMap_left _ fun shard _ => (visited (shardOrd shard) _).symm))

theorem Simulates.despawnsOwner (inv : Simulates t) (session : SessionId) :
    DespawnsOwner t session t.single (t.single.removeSession session true) ∧
      ∀ shard, DespawnsOwner t session (t.sharded.shards shard)
        ((t.sharded.removeSession session true).shards shard) := by
  have lookup (engine : WorldEngine) (owner : engine.sessionToActor.lookup session = t.owner session) :
      DespawnsOwner t session engine (engine.removeSession session true) := by
    intro id
    rw [removeSession_lookup, owner]
    simp only [true_and]
  refine ⟨lookup t.single (inv.routed.owner session), fun shard => ?_⟩
  cases routed : t.sharded.sessionToShard.lookup session with
  | none =>
      intro id
      rw [removeSession_unrouted routed, (inv.routed.unrouted routed).1, if_neg (Option.some_ne_none id).symm]
  | some idx =>
      rw [removeSession_routed routed]
      split_ifs with here
      · rw [here]
        exact lookup _ (inv.routed.shard_owner routed)
      · intro id
        split_ifs with owned
        · exact AList.lookup_eq_none.mpr (inv.home routed owned here)
        · rfl

theorem Simulates.sameWorld (inv : Simulates t) : SameWorld t := by
  refine ⟨fun ord shardOrd => ?_, inv.mirrors.views.size_eq, inv.routed.sessions.size_eq, inv.inStep.globalTick.symm,
    fun ord shardOrd now => ?_, inv.mirrors.live, fun id shard shard' => inv.mirrors.one, fun session id => inv.ownerLives,
    inv.despawnsOwner⟩
  · exact inv.mirrors.perm Actor.snapshot (fun _ => rfl) ord shardOrd
  · have actors (engine : WorldEngine) (wired : Wired engine.runtime) (ord : Order) :=
      Recovery.snapshot_actors (fun id actor found => wired.keyed id actor found) ord now
    simp only [ShardedEngine.worldSnapshotForPersist, actors _ inv.inStep.single.wired,
      fun shard => actors _ (inv.inStep.shards shard).wired]
    exact inv.mirrors.perm Recovery.entry (fun _ => rfl) ord shardOrd

/-- In every run without attacks and shutdowns, one engine and its shards hold the same world. -/
theorem same_world (cfg : WorldConfig) (atLeastOne : shardCount ≥ 1) (t : Twin shardCount)
    (reachable : TwinReachable cfg atLeastOne AtPeace t) : SameWorld t :=
  (simulates_reachable reachable).sameWorld

def isAttack : ActorMessage → Bool
  | .Interact _ action => action = "ATTACK"
  | _ => false

theorem peaceful_iff (msg : ActorMessage) : Peaceful msg ↔ msg ≠ .Shutdown ∧ isAttack msg = false := by
  cases msg <;> simp [Peaceful, isAttack]

instance (msg : ActorMessage) : Decidable (Peaceful msg) := decidable_of_iff' _ (peaceful_iff msg)

instance (t : Twin shardCount) (call : ApiCall shardCount) : Decidable (AtPeace t call) :=
  decidable_of_iff ((∀ spec ∈ call.spawned, spec.id ∉ t.single.runtime.actors) ∧
      (∀ session ∈ call.registered, session ∉ t.single.sessionQueues) ∧ ∀ msg ∈ call.sent, Peaceful msg)
    ⟨fun all => ⟨all.1, all.2.1, all.2.2⟩, fun atPeace => ⟨atPeace.newActor, atPeace.newSession, atPeace.peaceful⟩⟩

-- two visitors in different shards; the first walks over to the other side before the second one leaves
def crossing : List (ApiCall 2) :=
  [.spawnActorForSession .stored .stored (villager 1 ⟨4990, 500⟩) ⟨1⟩,
    .spawnActorForSession .stored .stored (villager 2 ⟨6000, 500⟩) ⟨2⟩, .send 0 (.Move ⟨6010, 500⟩),
    .tick .stored (fun _ => 0) (fun _ => .stored) (fun _ _ => 0), .removeSession ⟨2⟩ true]

theorem same_world_crossing :
    let t := crossing.foldl Twin.next (Twin.start .default (by decide))
    SameWorld t ∧ t.single.actorCount = 1 ∧ ⟨1⟩ ∈ (t.sharded.shards 0).runtime.actors := by
  refine ⟨same_world .default (by decide) _ (Transition.Reachable.foldl (.start rfl) ?_), ?_, ?_⟩
  · decide +kernel
  · decide +kernel
  · decide +kernel

end LiveWorld.Proof.Shard

import LiveWorld.Proof.Engine.Sound
import LiveWorld.Spec.Deltas

/-!
# Between two ticks

`Steady` relates the engine to what has happened since the last tick: the previous snapshot is of the
last tick and holds nobody who is neither live nor despawned since, and the pending removals are the
despawned actors.
-/

namespace LiveWorld.Proof.Engine
open HashTable Spec Proof.Runtime
variable {cfg : WorldConfig} {w : World}

structure Steady (cfg : WorldConfig) (w : World) : Prop extends Sound cfg w.actorIds w.engine where
  cells : ∀ id actor, w.engine.runtime.actors.lookup id = some actor → InRange actor.state.cell
  targets : ∀ ref dest, .Move dest ∈ w.engine.runtime.inboxes.pending ref → dest.InWorld
  owned : ∀ session id, w.engine.sessionToActor.lookup session = some id → id ∈ w.engine.runtime.actors
  ownedOnce : ∀ s s' id, w.engine.sessionToActor.lookup s = some id →
    w.engine.sessionToActor.lookup s' = some id → s = s'
  removals : ∀ id, id ∈ w.engine.removedThisTick ↔ id ∈ w.despawned
  gone : ∀ id ∈ w.despawned, id ∈ w.actorIds ∧ id ∉ w.engine.runtime.actors
  prev : ∀ s ∈ w.engine.prevSnapshot, s.tick = w.engine.tickCount ∧
    (s.id ∈ w.engine.runtime.actors ∨ s.id ∈ w.despawned)

theorem steady_start (cfg : WorldConfig) : Steady cfg (World.start cfg) := by
  have nobody : ∀ id, id ∉ (WorldEngine.new cfg).runtime.actors := fun id => AList.notMem_empty id
  have noSession : ∀ session, session ∉ (WorldEngine.new cfg).sessionToActor := fun session => AList.notMem_empty session
  refine ⟨sound_new cfg, ?_, ?_, ?_, ?_, fun _ => Iff.rfl, ?_, ?_⟩
  · exact fun id actor found => absurd (HashMap.mem_of_lookup found) (nobody id)
  · exact fun _ _ member => absurd member List.not_mem_nil
  · exact fun session id found => absurd (HashMap.mem_of_lookup found) (noSession session)
  · exact fun session _ id found => absurd (HashMap.mem_of_lookup found) (noSession session)
  · exact fun _ member => absurd member List.not_mem_nil
  · exact fun _ member => absurd member List.not_mem_nil

theorem mem_departed {call : EngineCall} {id : ActorId} :
    id ∈ w.departed call ↔
      id ∈ w.despawned ∨ (id ∈ w.engine.runtime.actors ∧ id ∉ (call.apply w.engine).runtime.actors) := by
  simp only [World.departed, List.mem_append, List.mem_filter, decide_eq_true_eq]
  rfl

/-! ## Calls that only pass messages and frames on -/

theorem Steady.quiet (inv : Steady cfg w) (call : EngineCall) (notTick : call.isTick = false)
    (notSpawn : call.spawned = none) (sound : Sound cfg w.actorIds (call.apply w.engine))
    (actors : (call.apply w.engine).runtime.actors = w.engine.runtime.actors)
    (pending : ∀ ref dest, .Move dest ∈ (call.apply w.engine).runtime.inboxes.pending ref → dest.InWorld)
    (owners : ∀ session id, (call.apply w.engine).sessionToActor.lookup session = some id →
      w.engine.sessionToActor.lookup session = some id)
    (removals : (call.apply w.engine).removedThisTick = w.engine.removedThisTick)
    (prev : (call.apply w.engine).prevSnapshot = w.engine.prevSnapshot)
    (tickCount : (call.apply w.engine).tickCount = w.engine.tickCount) : Steady cfg (w.next call) := by
  have ids : (w.next call).actorIds = w.actorIds := by simp [World.next, notSpawn]
  have despawned : ∀ id, id ∈ (w.next call).despawned ↔ id ∈ w.despawned := by
    intro id
    simp only [World.next, notTick, Bool.false_eq_true, if_false, mem_departed, actors]
    exact ⟨fun either => either.elim (fun old => old) fun both => absurd both.1 both.2, .inl⟩
  refine ⟨ids ▸ sound, ?_, pending, ?_, ?_, ?_, ?_, ?_⟩
  · intro id actor found
    change (call.apply w.engine).runtime.actors.lookup id = _ at found
    rw [actors] at found
    exact inv.cells id actor found
  · intro session id found
    change id ∈ (call.apply w.engine).runtime.actors
    rw [actors]
    exact inv.owned session id (owners session id found)
  · exact fun s s' id found found' => inv.ownedOnce s s' id (owners s id found) (owners s' id found')
  · intro id
    change id ∈ (call.apply w.engine).removedThisTick ↔ _
    rw [removals, despawned, inv.removals]
  · intro id member
    change _ ∧ id ∉ (call.apply w.engine).runtime.actors
    rw [ids, actors]
    exact inv.gone id ((despawned id).mp member)
  · intro s member
    change s ∈ (call.apply w.engine).prevSnapshot at member
    change s.tick = (call.apply w.engine).tickCount ∧ (s.id ∈ (call.apply w.engine).runtime.actors ∨ _)
    rw [prev] at member
    rw [tickCount, actors, despawned]
    exact inv.prev s member

theorem Steady.effected {allowed : ActorMessage → Prop} (inv : Steady cfg w) (call : EngineCall)
    (notTick : call.isTick = false) (notSpawn : call.spawned = none)
    (sound : Sound cfg w.actorIds (call.apply w.engine)) (effected : Effected allowed w.engine (call.apply w.engine))
    (admissible : ∀ msg, allowed msg → Admissible msg) : Steady cfg (w.next call) := by
  refine inv.quiet call notTick notSpawn sound effected.actors ?_ (fun _ _ found => effected.sessionToActor ▸ found)
    effected.removedThisTick effected.prevSnapshot effected.tickCount
  intro ref dest member
  rcases effected.pending ref _ member with old | new
  · exact inv.targets ref dest old
  · exact admissible _ new

/-! ## Spawning -/

theorem Steady.spawn (inv : Steady cfg w) (valid : ValidConfig cfg) (call : EngineCall) {spec : ActorSpec}
    (notTick : call.isTick = false) (spawns : call.spawned = some spec) (playing : Playing w call)
    (runtime : (call.apply w.engine).runtime = (w.engine.runtime.spawnActor spec).2)
    (owners : ∀ session id, (call.apply w.engine).sessionToActor.lookup session = some id →
      id = spec.id ∨ w.engine.sessionToActor.lookup session = some id)
    (ownersOnce : ∀ s s', (call.apply w.engine).sessionToActor.lookup s = some spec.id →
      (call.apply w.engine).sessionToActor.lookup s' = some spec.id → s = s')
    (removals : (call.apply w.engine).removedThisTick = w.engine.removedThisTick)
    (prev : (call.apply w.engine).prevSnapshot = w.engine.prevSnapshot)
    (tickCount : (call.apply w.engine).tickCount = w.engine.tickCount)
    (sound : Sound cfg (spec.id :: w.actorIds) (call.apply w.engine)) : Steady cfg (w.next call) := by
  have ids : (w.next call).actorIds = spec.id :: w.actorIds := by simp [World.next, spawns]
  have fresh : spec.id ∉ w.actorIds := playing.distinct spec spawns
  have live : ∀ id, id ∈ (call.apply w.engine).runtime.actors ↔ id = spec.id ∨ id ∈ w.engine.runtime.actors := by
    intro id
    rw [runtime]
    exact AList.mem_insert _
  have despawned : ∀ id, id ∈ (w.next call).despawned ↔ id ∈ w.despawned := by
    intro id
    simp only [World.next, notTick, Bool.false_eq_true, if_false, mem_departed, live]
    exact ⟨fun either => either.elim (fun old => old) fun both => absurd (.inr both.1) both.2, .inl⟩
  refine ⟨ids ▸ sound, ?_, ?_, ?_, ?_, ?_, ?_, ?_⟩
  · intro id actor found
    change (call.apply w.engine).runtime.actors.lookup id = _ at found
    rw [runtime, spawnActor_lookup] at found
    split_ifs at found
    · cases found
      change InRange (spec.position.toGridCell w.engine.runtime.grid.cellSize)
      rw [inv.cellSize]
      exact inRange_toGridCell (playing.spawnInWorld spec spawns) valid.sized
    · exact inv.cells id actor found
  · intro ref dest member
    change _ ∈ (call.apply w.engine).runtime.inboxes.pending ref at member
    rw [runtime] at member
    change _ ∈ Function.update w.engine.runtime.inboxes.pending w.engine.runtime.inboxes.next [] ref at member
    by_cases mine : ref = w.engine.runtime.inboxes.next
    · rw [mine, Function.update_self] at member
      cases member
    · rw [Function.update_of_ne mine] at member
      exact inv.targets ref dest member
  · intro session id found
    change id ∈ (call.apply w.engine).runtime.actors
    rw [live]
    exact (owners session id found).imp_right (inv.owned session id)
  · intro s s' id found found'
    by_cases mine : id = spec.id
    · subst mine
      exact ownersOnce s s' found found'
    · exact inv.ownedOnce s s' id ((owners s id found).resolve_left mine) ((owners s' id found').resolve_left mine)
  · intro id
    change id ∈ (call.apply w.engine).removedThisTick ↔ _
    rw [removals, despawned, inv.removals]
  · intro id member
    obtain ⟨used, dead⟩ := inv.gone id ((despawned id).mp member)
    change _ ∧ id ∉ (call.apply w.engine).runtime.actors
    rw [ids, live]
    refine ⟨List.mem_cons_of_mem _ used, ?_⟩
    rintro (rfl | there)
    · exact fresh used
    · exact dead there
  · intro s member
    change s ∈ (call.apply w.engine).prevSnapshot at member
    change s.tick = (call.apply w.engine).tickCount ∧ (s.id ∈ (call.apply w.engine).runtime.actors ∨ _)
    rw [prev] at member
    rw [tickCount, live, despawned]
    obtain ⟨tick, there⟩ := inv.prev s member
    exact ⟨tick, there.imp_left .inr⟩

theorem Steady.spawnActorForSession (inv : Steady cfg w) (valid : ValidConfig cfg) (ord : Order) (spec : ActorSpec)
    (session : SessionId) (playing : Playing w (.spawnActorForSession ord spec session)) :
    Steady cfg (w.next (.spawnActorForSession ord spec session)) := by
  have fresh : spec.id ∉ w.actorIds := playing.distinct spec rfl
  have unowned : ∀ s, w.engine.sessionToActor.lookup s ≠ some spec.id :=
    fun s there => fresh (inv.used _ (inv.owned s _ there))
  have lookup : ∀ s, (w.engine.spawnActorForSession ord spec session).2.sessionToActor.lookup s =
      if s = session then some spec.id else w.engine.sessionToActor.lookup s :=
    fun s => HashMap.lookup_insert_eq _ _ _ _
  have onlyMine : ∀ s, (w.engine.spawnActorForSession ord spec session).2.sessionToActor.lookup s = some spec.id →
      s = session := by
    intro s found
    rw [lookup] at found
    split_ifs at found with mine
    · exact mine
    · exact absurd found (unowned s)
  refine inv.spawn valid _ rfl rfl playing rfl ?_ ?_ rfl rfl rfl (inv.toSound.spawnActorForSession fresh session)
  · intro s id found
    rw [EngineCall.apply, lookup] at found
    split_ifs at found
    · exact .inl (Option.some.inj found).symm
    · exact .inr found
  · exact fun s s' found found' => (onlyMine s found).trans (onlyMine s' found').symm

theorem Steady.spawnActorStandalone (inv : Steady cfg w) (valid : ValidConfig cfg) (spec : ActorSpec)
    (playing : Playing w (.spawnActorStandalone spec)) : Steady cfg (w.next (.spawnActorStandalone spec)) := by
  have fresh : spec.id ∉ w.actorIds := playing.distinct spec rfl
  refine inv.spawn valid _ rfl rfl playing rfl (fun _ _ found => .inr found) ?_ rfl rfl rfl (inv.toSound.spawn fresh)
  exact fun s _ found => absurd (inv.used _ (inv.owned s _ found)) fresh

/-! ## Removing a session -/

theorem lookup_of_erase {K V : Type} [DecidableEq K] {m : HashMap K V} {k j : K} {v : V}
    (found : (m.erase k).lookup j = some v) : j ≠ k ∧ m.lookup j = some v := by
  rw [HashMap.lookup_erase_eq] at found
  split_ifs at found with same
  exact ⟨same, found⟩

theorem Steady.removeOwner (inv : Steady cfg w) {session : SessionId} {id : ActorId}
    (owner : w.engine.sessionToActor.lookup session = some id) : Steady cfg (w.next (.removeSession session true)) := by
  have equation : EngineCall.apply w.engine (.removeSession session true) =
      { w.engine with
        sessionToActor := w.engine.sessionToActor.erase session
        removedThisTick := w.engine.removedThisTick ++ [id]
        runtime := (w.engine.runtime.despawnActor id).2
        sessionQueues := w.engine.sessionQueues.erase session
        interest := w.engine.interest.unregister session } := by
    simp only [EngineCall.apply, WorldEngine.removeSession, if_true, owner]
  have sound := inv.toSound.removeSession session true
  change Sound cfg w.actorIds (EngineCall.apply w.engine (.removeSession session true)) at sound
  have live : ∀ other, other ∈ (w.engine.runtime.despawnActor id).2.actors ↔
      other ≠ id ∧ other ∈ w.engine.runtime.actors := by
    intro other
    rw [← AList.lookup_isSome, ← AList.lookup_isSome, despawnActor_lookup]
    split_ifs with same <;> simp [same]
  have despawned : ∀ other, other ∈ (w.next (.removeSession session true)).despawned ↔
      other ∈ w.despawned ∨ other = id := by
    intro other
    simp only [World.next, EngineCall.isTick, Bool.false_eq_true, if_false, mem_departed, equation, live]
    constructor
    · rintro (old | ⟨there, away⟩)
      · exact .inl old
      · by_contra neither
        push Not at neither
        exact away ⟨neither.2, there⟩
    · rintro (old | rfl)
      · exact .inl old
      · exact .inr ⟨inv.owned session other owner, fun both => both.1 rfl⟩
  refine ⟨sound, ?_, ?_, ?_, ?_, ?_, ?_, ?_⟩ <;> simp only [World.next, equation, EngineCall.spawned, Option.map_none,
    Option.toList_none, List.nil_append]
  · intro other actor found
    rw [despawnActor_lookup] at found
    split_ifs at found
    exact inv.cells other actor found
  · rw [despawnActor_inboxes]
    exact inv.targets
  · intro other owned found
    obtain ⟨differ, before⟩ := lookup_of_erase found
    rw [live]
    refine ⟨?_, inv.owned other owned before⟩
    intro equal
    subst equal
    exact differ (inv.ownedOnce other session owned before owner)
  · exact fun s s' owned found found' =>
      inv.ownedOnce s s' owned (lookup_of_erase found).2 (lookup_of_erase found').2
  · intro other
    refine Iff.trans ?_ (despawned other).symm
    rw [List.mem_append, List.mem_singleton, inv.removals]
  · intro other member
    rw [live]
    rcases (despawned other).mp member with old | rfl
    · obtain ⟨used, dead⟩ := inv.gone other old
      exact ⟨used, fun both => dead both.2⟩
    · exact ⟨inv.used other (inv.owned session other owner), fun both => both.1 rfl⟩
  · intro s member
    obtain ⟨tick, there⟩ := inv.prev s member
    refine ⟨tick, ?_⟩
    by_cases mine : s.id = id
    · exact .inr ((despawned s.id).mpr (.inr mine))
    · rcases there with here | old
      · exact .inl ((live s.id).mpr ⟨mine, here⟩)
      · exact .inr ((despawned s.id).mpr (.inl old))

theorem Steady.removeSession (inv : Steady cfg w) (session : SessionId) (despawn : Bool) :
    Steady cfg (w.next (.removeSession session despawn)) := by
  have sound := inv.toSound.removeSession session despawn
  cases despawn with
  | true =>
      cases owner : w.engine.sessionToActor.lookup session with
      | some id => exact inv.removeOwner owner
      | none =>
          have equation : EngineCall.apply w.engine (.removeSession session true) =
              { w.engine with
                sessionQueues := w.engine.sessionQueues.erase session
                interest := w.engine.interest.unregister session } := by
            simp only [EngineCall.apply, WorldEngine.removeSession, if_true, owner]
          refine inv.quiet _ rfl rfl sound ?_ ?_ ?_ ?_ ?_ ?_ <;> simp only [equation]
          · exact inv.targets
          · exact fun _ _ found => found
  | false =>
      exact inv.quiet _ rfl rfl sound rfl inv.targets (fun _ _ found => (lookup_of_erase found).2) rfl rfl rfl

/-! ## Ticking -/

theorem Steady.nextActor_cell (inv : Steady cfg w) (valid : ValidConfig cfg) {id : ActorId} {actor : Actor}
    (found : w.engine.runtime.actors.lookup id = some actor) : InRange (nextActor w.engine actor).state.cell := by
  rcases afterTick_cell w.engine.runtime.grid.cellSize (w.engine.tickCount + 1)
    (w.engine.runtime.inboxes.pending actor.inbox) actor with same | ⟨dest, -, sent, cell⟩
  · rw [nextActor, same]
    exact inv.cells id actor found
  · rw [nextActor, cell, inv.cellSize]
    exact inRange_toGridCell (inv.targets _ dest sent) valid.sized

theorem Steady.tick (inv : Steady cfg w) (valid : ValidConfig cfg) (ord : Order) (clock : SessionId → UInt64) :
    Steady cfg (w.next (.tick ord clock)) := by
  have finished := finished_tick w.engine ord clock
  have effected := effected_applyEffects w.engine ord
  have owners : (w.engine.tick ord clock).sessionToActor = w.engine.sessionToActor :=
    finished.sessionToActor.trans effected.sessionToActor
  have tickCount : (w.engine.tick ord clock).tickCount = w.engine.tickCount + 1 :=
    finished.tickCount.trans effected.tickCount
  refine ⟨inv.toSound.tick ord clock, ?_, ?_, ?_, ?_, ?_, ?_, ?_⟩ <;> simp only [World.next, EngineCall.apply,
    EngineCall.isTick, if_true]
  · intro id actor found
    rw [inv.lookup_tick, Option.map_eq_some_iff] at found
    obtain ⟨old, before, rfl⟩ := found
    exact inv.nextActor_cell valid before
  · intro ref dest member
    rw [finished.runtime] at member
    rcases effected.pending ref _ member with old | new
    · exact inv.targets ref dest ((tick_spec inv.consistent.toWired ord _).kept ref _ old)
    · exact absurd new id
  · intro session id found
    rw [owners] at found
    rw [inv.mem_tick]
    exact inv.owned session id found
  · rw [owners]
    exact inv.ownedOnce
  · intro id
    rw [finished.removedThisTick]
  · exact fun _ member => absurd member List.not_mem_nil
  · intro s member
    rw [finished.prevSnapshot, mem_snapshot] at member
    obtain ⟨id, actor, found, rfl⟩ := member
    rw [inv.lookup_applyEffects, Option.map_eq_some_iff] at found
    obtain ⟨old, before, rfl⟩ := found
    obtain ⟨tick, sameId⟩ := nextActor_state w.engine old
    refine ⟨tick.trans tickCount.symm, .inl ?_⟩
    rw [inv.mem_tick, sameId, (inv.consistent.keyed id old before).2]
    exact HashMap.mem_of_lookup before

/-! ## All reachable states -/

theorem Steady.call (inv : Steady cfg w) (valid : ValidConfig cfg) (call : EngineCall) (playing : Playing w call) :
    Steady cfg (w.next call) := by
  have sound : Sound cfg (w.next call).actorIds (call.apply w.engine) := by
    refine inv.toSound.call call playing.distinct fun shutdown => ?_
    exact playing.admissible _ shutdown
  cases call with
  | spawnActorForSession ord spec session => exact inv.spawnActorForSession valid ord spec session playing
  | spawnActorStandalone spec => exact inv.spawnActorStandalone valid spec playing
  | removeSession session despawn => exact inv.removeSession session despawn
  | despawnActor id => exact absurd rfl (playing.withSession id)
  | send handle msg =>
      refine inv.effected _ rfl rfl sound (effected_send w.engine handle msg) ?_
      intro new same
      exact playing.admissible new (congrArg some same.symm)
  | applyDirective directive =>
      exact inv.effected _ rfl rfl sound (effected_applyDirective w.engine directive) fun msg sent =>
        playing.admissible msg sent
  | broadcastWorldEvent message =>
      exact inv.quiet _ rfl rfl sound rfl inv.targets (fun _ _ found => found) rfl rfl rfl
  | drainSession session =>
      obtain ⟨queues, drained, -⟩ := drainSession_spec w.engine session
      have equation : EngineCall.apply w.engine (.drainSession session) = { w.engine with sessionQueues := queues } :=
        drained
      refine inv.quiet _ rfl rfl sound ?_ ?_ ?_ ?_ ?_ ?_ <;> simp only [equation]
      · exact inv.targets
      · exact fun _ _ found => found
  | tick ord clock => exact inv.tick valid ord clock

theorem steady_reachable (valid : ValidConfig cfg) (reachable : WorldReachable cfg Playing w) : Steady cfg w := by
  refine reachable.invariant ?_ ?_
  · intro w equal
    subst equal
    exact steady_start cfg
  · intro w call after inv playing moved
    cases moved
    exact inv.call valid call playing

end LiveWorld.Proof.Engine

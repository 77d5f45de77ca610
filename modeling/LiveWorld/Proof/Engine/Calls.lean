import LiveWorld.Proof.Engine.Durable

/-!
# Who is live after a call

Only a spawn adds an actor. Unlike `Sound`, this does not depend on what is sent.
-/

namespace LiveWorld.Proof.Engine
open HashTable Spec Proof.Runtime
variable {engine : WorldEngine} {id : ActorId}

theorem removeSession_runtime (engine : WorldEngine) (session : SessionId) (despawn : Bool) :
    (engine.removeSession session despawn).runtime = engine.runtime ∨
      ∃ id, (engine.removeSession session despawn).runtime = (engine.runtime.despawnActor id).2 := by
  unfold WorldEngine.removeSession
  cases despawn with
  | false => exact .inl rfl
  | true =>
      cases engine.sessionToActor.lookup session with
      | none => exact .inl rfl
      | some id => exact .inr ⟨id, rfl⟩

theorem removeSession_lookup (engine : WorldEngine) (session : SessionId) (despawn : Bool) (id : ActorId) :
    (engine.removeSession session despawn).runtime.actors.lookup id =
      if despawn = true ∧ engine.sessionToActor.lookup session = some id then none
      else engine.runtime.actors.lookup id := by
  unfold WorldEngine.removeSession
  cases despawn with
  | false =>
      rw [if_neg (not_and_of_not_left _ Bool.false_ne_true)]
      rfl
  | true =>
      cases engine.sessionToActor.lookup session with
      | none =>
          rw [if_neg (not_and_of_not_right _ (Option.some_ne_none id).symm)]
          rfl
      | some mine =>
          refine (despawnActor_lookup engine.runtime mine id).trans ?_
          simp only [Option.some.injEq, true_and, eq_comm]

theorem removeSession_owners (engine : WorldEngine) (session : SessionId) (despawn : Bool) (other : SessionId) :
    (engine.removeSession session despawn).sessionToActor.lookup other =
      if other = session then none else engine.sessionToActor.lookup other := by
  unfold WorldEngine.removeSession
  cases despawn with
  | false => exact HashMap.lookup_erase_eq _ _ _
  | true =>
      cases owned : engine.sessionToActor.lookup session with
      | none =>
          by_cases same : other = session
          · rw [if_pos same, same]
            exact owned
          · rw [if_neg same]
            rfl
      | some mine => exact HashMap.lookup_erase_eq _ _ _

theorem removeSession_queues (engine : WorldEngine) (session : SessionId) (despawn : Bool) :
    (engine.removeSession session despawn).sessionQueues = engine.sessionQueues.erase session := by
  unfold WorldEngine.removeSession
  cases despawn with
  | false => rfl
  | true => cases engine.sessionToActor.lookup session <;> rfl

theorem removeSession_interest (engine : WorldEngine) (session : SessionId) (despawn : Bool) :
    (engine.removeSession session despawn).interest = engine.interest.unregister session := by
  unfold WorldEngine.removeSession
  cases despawn with
  | false => rfl
  | true => cases engine.sessionToActor.lookup session <;> rfl

theorem removeSession_inboxes (engine : WorldEngine) (session : SessionId) (despawn : Bool) :
    (engine.removeSession session despawn).runtime.inboxes = engine.runtime.inboxes := by
  rcases removeSession_runtime engine session despawn with same | ⟨id, same⟩
  · rw [same]
  · rw [same, despawnActor_inboxes]

theorem drainSession_runtime (engine : WorldEngine) (session : SessionId) :
    (engine.drainSession session).2.runtime = engine.runtime := by
  obtain ⟨queues, drained, -⟩ := drainSession_spec engine session
  rw [drained]

theorem wired_call (call : EngineCall) (inv : Wired engine.runtime) : Wired (call.apply engine).runtime := by
  cases call with
  | spawnActorForSession ord spec session => exact inv.spawn spec
  | spawnActorStandalone spec => exact inv.spawn spec
  | removeSession session despawn =>
      rw [EngineCall.apply]
      rcases removeSession_runtime engine session despawn with same | ⟨id, same⟩
      · exact same ▸ inv
      · exact same ▸ inv.despawn id
  | despawnActor id => exact inv.despawn id
  | send handle msg => exact (effected_send engine handle msg).wired inv
  | applyDirective directive => exact (effected_applyDirective engine directive).wired inv
  | broadcastWorldEvent message => exact inv
  | drainSession session => exact (drainSession_runtime engine session).symm ▸ inv
  | tick ord clock =>
      rw [EngineCall.apply, (finished_tick engine ord clock).runtime]
      exact (effected_applyEffects engine ord).wired (tick_spec inv ord _).wired

theorem consistent_call (call : EngineCall) (inv : Consistent engine.runtime)
    (fresh : ∀ spec ∈ call.spawned, spec.id ∉ engine.runtime.actors) : Consistent (call.apply engine).runtime := by
  cases call with
  | spawnActorForSession ord spec session => exact inv.spawn (fresh spec rfl)
  | spawnActorStandalone spec => exact inv.spawn (fresh spec rfl)
  | removeSession session despawn =>
      rw [EngineCall.apply]
      rcases removeSession_runtime engine session despawn with same | ⟨id, same⟩
      · exact same ▸ inv
      · exact same ▸ inv.despawn id
  | despawnActor id => exact inv.despawn id
  | send handle msg => exact inv.send handle msg
  | applyDirective directive => exact (effected_applyDirective engine directive).consistent inv
  | broadcastWorldEvent message => exact inv
  | drainSession session => exact (drainSession_runtime engine session).symm ▸ inv
  | tick ord clock =>
      rw [EngineCall.apply, (finished_tick engine ord clock).runtime]
      exact (effected_applyEffects engine ord).consistent (inv.tick ord _)

theorem prevSnapshot_call (call : EngineCall) (other : call.isTick = false) :
    (call.apply engine).prevSnapshot = engine.prevSnapshot := by
  cases call with
  | spawnActorForSession ord spec session => rfl
  | spawnActorStandalone spec => rfl
  | removeSession session despawn =>
      simp only [EngineCall.apply, WorldEngine.removeSession]
      cases despawn with
      | false => rfl
      | true => cases engine.sessionToActor.lookup session <;> rfl
  | despawnActor id => rfl
  | send handle msg => rfl
  | applyDirective directive => exact (effected_applyDirective engine directive).prevSnapshot
  | broadcastWorldEvent message => rfl
  | drainSession session =>
      simp only [EngineCall.apply, WorldEngine.drainSession]
      cases engine.sessionQueues.lookup session <;> rfl
  | tick ord clock => cases other

theorem tickCount_call (call : EngineCall) (engine : WorldEngine) :
    (call.apply engine).tickCount = if call.isTick then engine.tickCount + 1 else engine.tickCount := by
  cases call with
  | removeSession session despawn =>
      simp only [EngineCall.apply, WorldEngine.removeSession]
      cases despawn with
      | false => rfl
      | true => cases engine.sessionToActor.lookup session <;> rfl
  | applyDirective directive => exact (effected_applyDirective engine directive).tickCount
  | drainSession session =>
      simp only [EngineCall.apply, WorldEngine.drainSession]
      cases engine.sessionQueues.lookup session <;> rfl
  | tick ord clock =>
      exact (finished_tick engine ord clock).tickCount.trans (effected_applyEffects engine ord).tickCount
  | _ => rfl

theorem cellSize_call (call : EngineCall) (inv : Wired engine.runtime) :
    (call.apply engine).runtime.grid.cellSize = engine.runtime.grid.cellSize := by
  cases call with
  | removeSession session despawn =>
      rw [EngineCall.apply]
      rcases removeSession_runtime engine session despawn with same | ⟨id, same⟩
      · rw [same]
      · rw [same, despawnActor_cellSize]
  | despawnActor id => exact despawnActor_cellSize engine.runtime id
  | applyDirective directive => rw [EngineCall.apply, (effected_applyDirective engine directive).grid]
  | drainSession session =>
      simp only [EngineCall.apply, WorldEngine.drainSession]
      cases engine.sessionQueues.lookup session <;> rfl
  | tick ord clock =>
      rw [EngineCall.apply, (finished_tick engine ord clock).runtime, (effected_applyEffects engine ord).grid]
      exact (tick_spec inv ord _).cellSize
  | _ => rfl

theorem mem_of_despawn {rt : ActorRuntime} {gone : ActorId} (live : id ∈ (rt.despawnActor gone).2.actors) :
    id ∈ rt.actors := by
  obtain ⟨actor, found⟩ := HashMap.lookup_of_mem live
  rw [despawnActor_lookup] at found
  split_ifs at found
  exact HashMap.mem_of_lookup found

theorem mem_call (call : EngineCall)
    (live : id ∈ (call.apply engine).runtime.actors) :
    id ∈ engine.runtime.actors ∨ ∃ spec ∈ call.spawned, spec.id = id := by
  have spawned {spec : ActorSpec} (live : id ∈ (engine.runtime.spawnActor spec).2.actors) :
      id ∈ engine.runtime.actors ∨ spec.id = id := by
    change id ∈ engine.runtime.actors.insert _ _ at live
    rw [AList.mem_insert] at live
    exact live.symm.imp_right Eq.symm
  cases call with
  | spawnActorForSession ord spec session => exact (spawned live).imp_right fun same => ⟨spec, rfl, same⟩
  | spawnActorStandalone spec => exact (spawned live).imp_right fun same => ⟨spec, rfl, same⟩
  | removeSession session despawn =>
      rw [EngineCall.apply] at live
      left
      rcases removeSession_runtime engine session despawn with same | ⟨gone, same⟩
      · rw [same] at live
        exact live
      · rw [same] at live
        exact mem_of_despawn live
  | despawnActor gone => exact .inl (mem_of_despawn live)
  | send handle msg => exact .inl live
  | applyDirective directive =>
      rw [EngineCall.apply, (effected_applyDirective engine directive).actors] at live
      exact .inl live
  | broadcastWorldEvent message => exact .inl live
  | drainSession session =>
      simp only [EngineCall.apply, WorldEngine.drainSession] at live
      cases queued : engine.sessionQueues.lookup session <;> rw [queued] at live <;> exact .inl live
  | tick ord clock =>
      left
      have lasting : Lasting fun id _ => id ∈ engine.runtime.actors :=
        ⟨fun _ _ _ kept => kept, fun _ _ _ kept => kept, fun _ _ _ _ kept => kept⟩
      obtain ⟨actor, found⟩ := HashMap.lookup_of_mem live
      exact all_engineTick lasting (fun id _ => HashMap.mem_of_lookup) ord clock id actor found

theorem mem_fullSnapshot {ord : Order} (inv : Consistent engine.runtime) :
    (∃ s ∈ engine.fullSnapshot ord, s.id = id) ↔ id ∈ engine.runtime.actors := by
  constructor
  · intro given
    obtain ⟨s, member, rfl⟩ := given
    obtain ⟨key, actor, found, rfl⟩ := mem_snapshot.mp member
    rw [(inv.keyed key actor found).2]
    exact HashMap.mem_of_lookup found
  · intro live
    obtain ⟨actor, found⟩ := HashMap.lookup_of_mem live
    exact ⟨actor.state, mem_snapshot.mpr ⟨id, actor, found, rfl⟩, (inv.keyed id actor found).2⟩

/-! ## Sessions and inboxes -/

theorem tick_next (rt : ActorRuntime) (ord : Order) (tickNum : UInt64) :
    (rt.tick ord tickNum).2.inboxes.next = rt.inboxes.next := by
  have despawned (ids : List ActorId) (rt : ActorRuntime) :
      (ids.foldl (fun rt id => (rt.despawnActor id).2) rt).inboxes = rt.inboxes := by
    induction ids generalizing rt with
    | nil => rfl
    | cons first rest ih => exact (ih _).trans (despawnActor_inboxes rt first)
  have rounds (todo : List ((_ : ActorId) × Actor)) (loop : ActorRuntime.TickLoop) :
      (todo.foldl (ActorRuntime.tickActor tickNum) loop).runtime.inboxes.next = loop.runtime.inboxes.next := by
    induction todo generalizing loop with
    | nil => rfl
    | cons entry rest ih => exact ih _
  exact (congrArg Inboxes.next (despawned _ _)).trans (rounds _ _)

theorem pending_sendToActor (inv : Wired engine.runtime) {id : ActorId} {actor : Actor}
    (live : engine.runtime.actors.lookup id = some actor) (target : ActorId) (msg : ActorMessage) :
    (engine.sendToActor target msg).2.runtime.inboxes.pending actor.inbox =
      if target = id ∧ (engine.runtime.inboxes.pending actor.inbox).length < queueSize - 1
      then engine.runtime.inboxes.pending actor.inbox ++ [msg] else engine.runtime.inboxes.pending actor.inbox := by
  unfold WorldEngine.sendToActor
  cases held : engine.runtime.handle target with
  | none =>
      rw [if_neg]
      intro both
      obtain ⟨handle, found⟩ := HashMap.lookup_of_mem ((inv.sameKeys id).mp (HashMap.mem_of_lookup live))
      rw [both.1, ActorRuntime.handle, found] at held
      cases held
  | some handle =>
      obtain ⟨owner, found⟩ := HashMap.lookup_of_mem ((inv.sameKeys target).mpr (HashMap.mem_of_lookup held))
      have feeds := inv.feeds target owner handle found held
      have mine : actor.inbox = handle.sender ↔ target = id := by
        rw [feeds]
        constructor
        · exact fun same => inv.ownInbox target id owner actor found live same.symm
        · rintro rfl
          rw [found] at live
          rw [Option.some.inj live]
      refine (pending_send handle engine.runtime.inboxes msg actor.inbox).trans ?_
      simp only [mine]

theorem mem_sessionQueues_tick (engine : WorldEngine) (ord : Order) (clock : SessionId → UInt64) (session : SessionId) :
    session ∈ (engine.tick ord clock).sessionQueues ↔ session ∈ engine.sessionQueues := by
  obtain ⟨queues, pushed, lookup⟩ := pushDeltas_spec (engine.applyEffects ord) ord clock
  rw [WorldEngine.tick, pushed]
  refine Iff.trans ?_ ((effected_applyEffects engine ord).mem_sessionQueues session)
  change session ∈ queues ↔ _
  rw [← AList.lookup_isSome, ← AList.lookup_isSome, lookup]
  split_ifs
  · rw [Option.isSome_map]
  · rfl

/-- The sessions stay, nobody is spawned, and everybody keeps their inbox. -/
structure Undisturbed (before after : WorldEngine) : Prop where
  actors : ∀ id actor, after.runtime.actors.lookup id = some actor →
    ∃ old, before.runtime.actors.lookup id = some old ∧ old.inbox = actor.inbox
  next : after.runtime.inboxes.next = before.runtime.inboxes.next
  owners : after.sessionToActor = before.sessionToActor
  queues : ∀ session, session ∈ after.sessionQueues ↔ session ∈ before.sessionQueues
  anchors : ∀ session, session ∈ after.interest.sessionAnchors ↔ session ∈ before.interest.sessionAnchors

theorem Undisturbed.refl (engine : WorldEngine) : Undisturbed engine engine :=
  ⟨fun _ actor found => ⟨actor, found, rfl⟩, rfl, rfl, fun _ => .rfl, fun _ => .rfl⟩

theorem Effected.undisturbed {allowed : ActorMessage → Prop} {after : WorldEngine}
    (effected : Effected allowed engine after) : Undisturbed engine after := by
  refine ⟨fun id actor found => ⟨actor, ?_, rfl⟩, effected.next, effected.sessionToActor,
    effected.mem_sessionQueues, fun session => mem_of_map_eq (effected.anchors session)⟩
  rw [effected.actors] at found
  exact found

theorem undisturbed_drainSession (engine : WorldEngine) (session : SessionId) :
    Undisturbed engine (engine.drainSession session).2 := by
  have members := mem_drainSession engine session
  obtain ⟨queues, drained, -⟩ := drainSession_spec engine session
  rw [drained] at members ⊢
  exact ⟨fun _ actor found => ⟨actor, found, rfl⟩, rfl, rfl, members, fun _ => .rfl⟩

theorem undisturbed_tick (engine : WorldEngine) (ord : Order) (clock : SessionId → UInt64) :
    Undisturbed engine (engine.tick ord clock) := by
  have finished := finished_tick engine ord clock
  have effected := effected_applyEffects engine ord
  refine ⟨?_, ?_, finished.sessionToActor.trans effected.sessionToActor, mem_sessionQueues_tick engine ord clock, ?_⟩
  · have lasting : Lasting fun id actor =>
        ∃ old, engine.runtime.actors.lookup id = some old ∧ old.inbox = actor.inbox := by
      refine ⟨fun _ _ _ kept => kept, fun id actor msg kept => ?_, fun _ _ _ _ kept => kept⟩
      rw [(handleMessage_same actor msg).1.inbox]
      exact kept
    exact all_engineTick lasting (fun id actor found => ⟨actor, found, rfl⟩) ord clock
  · rw [finished.runtime, effected.next]
    exact tick_next engine.runtime ord _
  · intro session
    rw [finished.interest]
    exact mem_of_map_eq (effected.anchors session)

end LiveWorld.Proof.Engine

import LiveWorld.Proof.Engine.Push

/-!
# What holds in every state of the engine

`Sound` collects the facts about an engine that are kept by every call, as long as ids are not reused
and nobody sends `Shutdown`. The other invariants of the engine are stated over sound states.
-/

namespace LiveWorld.Proof.Engine
open HashTable Spec Proof.Runtime
variable {cfg : WorldConfig} {ids : List ActorId} {engine after : WorldEngine} {ord : Order}

/-- `ids` are the ids that actors have been spawned under. -/
structure Sound (cfg : WorldConfig) (ids : List ActorId) (engine : WorldEngine) : Prop where
  consistent : Consistent engine.runtime
  cellSize : engine.runtime.grid.cellSize = cfg.cellSize
  radius : engine.interest.radius = cfg.interestRadius
  used : ∀ id ∈ engine.runtime.actors, id ∈ ids
  active : ∀ id actor, engine.runtime.actors.lookup id = some actor → actor.lifecycle = .Active
  running : ∀ ref, .Shutdown ∉ engine.runtime.inboxes.pending ref
  anchored : ∀ session entry, engine.interest.sessionAnchors.lookup session = some entry → entry.1 ∈ ids
  centred : Centred engine []
  queued : ∀ session, session ∈ engine.interest.sessionAnchors ↔ session ∈ engine.sessionQueues

theorem sound_new (cfg : WorldConfig) : Sound cfg [] (WorldEngine.new cfg) := by
  have nobody : ∀ id, id ∉ (WorldEngine.new cfg).runtime.actors := fun id => AList.notMem_empty id
  have nowhere : ∀ session, session ∉ (WorldEngine.new cfg).interest.sessionAnchors :=
    fun session => AList.notMem_empty session
  refine ⟨consistent_new cfg, rfl, rfl, fun id live => absurd live (nobody id), ?_, fun _ => List.not_mem_nil, ?_, ?_, ?_⟩
  · exact fun id actor found => absurd (HashMap.mem_of_lookup found) (nobody id)
  · exact fun session entry found => absurd (HashMap.mem_of_lookup found) (nowhere session)
  · exact fun session _ _ _ found => absurd (HashMap.mem_of_lookup found) (nowhere session)
  · exact fun session => Iff.rfl

theorem Sound.congr (inv : Sound cfg ids engine) (runtime : after.runtime = engine.runtime)
    (interest : after.interest = engine.interest)
    (queues : ∀ session, session ∈ after.sessionQueues ↔ session ∈ engine.sessionQueues) : Sound cfg ids after := by
  refine ⟨?_, ?_, ?_, ?_, ?_, ?_, ?_, ?_, ?_⟩
  · exact runtime ▸ inv.consistent
  · exact runtime ▸ inv.cellSize
  · exact interest ▸ inv.radius
  · exact runtime ▸ inv.used
  · exact runtime ▸ inv.active
  · exact runtime ▸ inv.running
  · exact interest ▸ inv.anchored
  · intro session anchor cell actor window live
    rw [interest] at window
    rw [runtime] at live
    exact inv.centred session anchor cell actor window live
  · intro session
    rw [interest, queues, inv.queued]

/-! ## Spawning -/

theorem Sound.spawn (inv : Sound cfg ids engine) {spec : ActorSpec} (fresh : spec.id ∉ ids) :
    Sound cfg (spec.id :: ids) { engine with runtime := (engine.runtime.spawnActor spec).2 } := by
  have absent : spec.id ∉ engine.runtime.actors := fun live => fresh (inv.used _ live)
  refine ⟨inv.consistent.spawn absent, inv.cellSize, inv.radius, ?_, ?_, ?_, ?_, ?_, inv.queued⟩
  · intro id live
    change id ∈ engine.runtime.actors.insert _ _ at live
    rw [AList.mem_insert] at live
    rcases live with same | old
    · exact List.mem_cons.mpr (.inl same)
    · exact List.mem_cons_of_mem _ (inv.used id old)
  · intro id actor found
    rw [spawnActor_lookup] at found
    split_ifs at found
    · cases found
      rfl
    · exact inv.active id actor found
  · intro ref member
    change _ ∈ Function.update engine.runtime.inboxes.pending engine.runtime.inboxes.next [] ref at member
    by_cases mine : ref = engine.runtime.inboxes.next
    · rw [mine, Function.update_self] at member
      cases member
    · rw [Function.update_of_ne mine] at member
      exact inv.running ref member
  · exact fun session entry found => List.mem_cons_of_mem _ (inv.anchored session entry found)
  · intro session anchor cell actor window live
    rw [spawnActor_lookup] at live
    split_ifs at live with same
    · exact absurd (same ▸ inv.anchored session _ window) fresh
    · exact inv.centred session anchor cell actor window live

theorem Sound.addSession (inv : Sound cfg ids engine) (session : SessionId) {anchor : ActorId} {cell : GridCell}
    (used : anchor ∈ ids)
    (here : ∀ actor, engine.runtime.actors.lookup anchor = some actor → cell = actor.state.cell) :
    Sound cfg ids (engine.addSession session anchor cell) := by
  refine ⟨inv.consistent, inv.cellSize, inv.radius, inv.used, inv.active, inv.running, ?_, ?_, ?_⟩
  · intro other entry found
    change (engine.interest.sessionAnchors.insert session (anchor, cell)).lookup other = _ at found
    rw [HashMap.lookup_insert_eq] at found
    split_ifs at found
    · cases found
      exact used
    · exact inv.anchored other entry found
  · intro other id there actor window live
    change (engine.interest.sessionAnchors.insert session (anchor, cell)).lookup other = _ at window
    rw [HashMap.lookup_insert_eq] at window
    split_ifs at window
    · cases window
      exact .inl (here actor live)
    · exact inv.centred other id there actor window live
  · intro other
    change other ∈ engine.interest.sessionAnchors.insert _ _ ↔ other ∈ engine.sessionQueues.insert _ _
    rw [AList.mem_insert, AList.mem_insert, inv.queued]

theorem Sound.spawnActorForSession (inv : Sound cfg ids engine) {spec : ActorSpec} (fresh : spec.id ∉ ids)
    (session : SessionId) : Sound cfg (spec.id :: ids) (engine.spawnActorForSession ord spec session).2 := by
  have spawned := inv.spawn fresh
  have here : ∀ actor, (engine.runtime.spawnActor spec).2.actors.lookup spec.id = some actor →
      ((((engine.runtime.spawnActor spec).2.snapshotAll ord).find? fun s => s.id = spec.id).map
        ActorState.cell).getD ⟨0, 0⟩ = actor.state.cell := by
    intro actor found
    rw [find_snapshot spawned.consistent.toWired, found]
    rfl
  exact Sound.congr (spawned.addSession session List.mem_cons_self here) rfl rfl fun _ => Iff.rfl

/-! ## Removing -/

theorem Sound.despawn (inv : Sound cfg ids engine) (id : ActorId) :
    Sound cfg ids { engine with runtime := (engine.runtime.despawnActor id).2 } := by
  have old : ∀ other actor, (engine.runtime.despawnActor id).2.actors.lookup other = some actor →
      engine.runtime.actors.lookup other = some actor := by
    intro other actor found
    rw [despawnActor_lookup] at found
    split_ifs at found
    exact found
  refine ⟨inv.consistent.despawn id, (despawnActor_cellSize _ id).trans inv.cellSize, inv.radius, ?_, ?_, ?_,
    inv.anchored, ?_, inv.queued⟩
  · intro other live
    obtain ⟨actor, found⟩ := HashMap.lookup_of_mem live
    exact inv.used other (HashMap.mem_of_lookup (old other actor found))
  · exact fun other actor found => inv.active other actor (old other actor found)
  · rw [despawnActor_inboxes]
    exact inv.running
  · exact fun session anchor cell actor window live =>
      inv.centred session anchor cell actor window (old anchor actor live)

theorem Sound.unregister (inv : Sound cfg ids engine) (session : SessionId) :
    Sound cfg ids { engine with
      sessionQueues := engine.sessionQueues.erase session
      interest := engine.interest.unregister session } := by
  have old : ∀ other entry, (engine.interest.sessionAnchors.erase session).lookup other = some entry →
      engine.interest.sessionAnchors.lookup other = some entry := by
    intro other entry found
    rw [HashMap.lookup_erase_eq] at found
    split_ifs at found
    exact found
  refine ⟨inv.consistent, inv.cellSize, inv.radius, inv.used, inv.active, inv.running,
    fun other entry found => inv.anchored other entry (old other entry found), ?_, ?_⟩
  · exact fun other anchor cell actor window live => inv.centred other anchor cell actor (old other _ window) live
  · intro other
    change other ∈ engine.interest.sessionAnchors.erase session ↔ other ∈ engine.sessionQueues.erase session
    rw [AList.mem_erase, AList.mem_erase, inv.queued]

theorem Sound.removeSession (inv : Sound cfg ids engine) (session : SessionId) (despawn : Bool) :
    Sound cfg ids (engine.removeSession session despawn) := by
  have rest : ∀ left : WorldEngine, Sound cfg ids left → Sound cfg ids { left with
      sessionQueues := left.sessionQueues.erase session
      interest := left.interest.unregister session } := fun left sound => sound.unregister session
  unfold WorldEngine.removeSession
  apply rest
  split_ifs
  · cases engine.sessionToActor.lookup session with
    | some id => exact (inv.despawn id).congr rfl rfl fun _ => Iff.rfl
    | none => exact inv
  · exact inv.congr rfl rfl fun _ => Iff.rfl

/-! ## Messages and events -/

theorem mem_of_map_eq {K V W : Type} [DecidableEq K] {m m' : HashMap K V} {f g : V → W} {k : K}
    (same : (m'.lookup k).map f = (m.lookup k).map g) : k ∈ m' ↔ k ∈ m := by
  rw [← AList.lookup_isSome, ← AList.lookup_isSome, ← Option.isSome_map (f := f), same, Option.isSome_map]

theorem Effected.mem_sessionQueues {allowed : ActorMessage → Prop} (effected : Effected allowed engine after)
    (session : SessionId) : session ∈ after.sessionQueues ↔ session ∈ engine.sessionQueues := by
  obtain ⟨messages, appended⟩ := effected.queues session
  exact mem_of_map_eq (f := fun queue => queue) (by rw [Option.map_id']; exact appended)

theorem Sound.effected {allowed : ActorMessage → Prop} (inv : Sound cfg ids engine)
    (effected : Effected allowed engine after) (noShutdown : ¬allowed .Shutdown) (centred : Centred after []) :
    Sound cfg ids after := by
  refine ⟨effected.consistent inv.consistent, ?_, effected.radius.trans inv.radius, ?_, ?_, ?_, ?_, centred, ?_⟩
  · rw [effected.grid, inv.cellSize]
  · rw [effected.actors]
    exact inv.used
  · rw [effected.actors]
    exact inv.active
  · intro ref member
    rcases effected.pending ref _ member with old | new
    · exact inv.running ref old
    · exact noShutdown new
  · intro session entry found
    have same := effected.anchors session
    rw [found, Option.map_some] at same
    obtain ⟨before, there, equal⟩ := Option.map_eq_some_iff.mp same.symm
    rw [← equal]
    exact inv.anchored session before there
  · intro session
    rw [effected.mem_sessionQueues, ← inv.queued]
    exact mem_of_map_eq (effected.anchors session)

theorem Centred.of_interest {allowed : ActorMessage → Prop} (centred : Centred engine [])
    (effected : Effected allowed engine after) (interest : after.interest = engine.interest) : Centred after [] := by
  intro session anchor cell actor window live
  rw [interest] at window
  rw [effected.actors] at live
  exact centred session anchor cell actor window live

theorem Sound.send (inv : Sound cfg ids engine) (handle : ActorHandle) {msg : ActorMessage} (other : msg ≠ .Shutdown) :
    Sound cfg ids (engine.send handle msg).2 :=
  inv.effected (effected_send engine handle msg) (fun same => other same.symm)
    (inv.centred.of_interest (effected_send engine handle msg) rfl)

theorem Sound.applyDirective (inv : Sound cfg ids engine) (directive : WorldDirective) :
    Sound cfg ids (engine.applyDirective directive) := by
  have effected := effected_applyDirective engine directive
  refine inv.effected effected ?_ (inv.centred.of_interest effected ?_)
  · cases directive <;> nofun
  · cases directive with
    | ForceMove id dest => exact sendToActor_interest engine id (.Move dest)
    | _ => rfl

theorem Sound.broadcastWorldEvent (inv : Sound cfg ids engine) (message : String) :
    Sound cfg ids (engine.broadcastWorldEvent message) :=
  inv.congr rfl rfl fun session => HashMap.mem_mapValues _ _ session

theorem drainSession_spec (engine : WorldEngine) (session : SessionId) :
    ∃ queues, (engine.drainSession session).2 = { engine with sessionQueues := queues } ∧
      ∀ other, queues.lookup other =
        if other = session then (engine.sessionQueues.lookup other).map fun _ => [] else engine.sessionQueues.lookup other := by
  unfold WorldEngine.drainSession
  cases found : engine.sessionQueues.lookup session with
  | none =>
      refine ⟨engine.sessionQueues, rfl, fun other => ?_⟩
      split_ifs with mine
      · rw [mine, found]
        rfl
      · rfl
  | some queue =>
      refine ⟨_, rfl, fun other => ?_⟩
      rw [HashMap.lookup_insert_eq]
      split_ifs with mine
      · rw [mine, found]
        rfl
      · rfl

theorem mem_drainSession (engine : WorldEngine) (session other : SessionId) :
    other ∈ (engine.drainSession session).2.sessionQueues ↔ other ∈ engine.sessionQueues := by
  obtain ⟨queues, drained, lookup⟩ := drainSession_spec engine session
  rw [drained, ← AList.lookup_isSome, ← AList.lookup_isSome]
  change (queues.lookup other).isSome ↔ _
  rw [lookup]
  split_ifs
  · rw [Option.isSome_map]
  · rfl

theorem Sound.drainSession (inv : Sound cfg ids engine) (session : SessionId) :
    Sound cfg ids (engine.drainSession session).2 := by
  have members := mem_drainSession engine session
  obtain ⟨queues, drained, -⟩ := drainSession_spec engine session
  rw [drained] at members ⊢
  exact inv.congr rfl rfl members

/-! ## Ticking -/

def afterDrain (engine : WorldEngine) (ord : Order) : WorldEngine :=
  { engine with
    tickCount := engine.tickCount + 1
    runtime := (engine.runtime.tick ord (engine.tickCount + 1)).2 }

theorem effected_applyEffects (engine : WorldEngine) (ord : Order) :
    Effected Combat (afterDrain engine ord) (engine.applyEffects ord) :=
  effected_effects _ ord _

def nextActor (engine : WorldEngine) (actor : Actor) : Actor :=
  ticked engine.runtime (engine.tickCount + 1) actor

theorem Sound.lookup_afterDrain (inv : Sound cfg ids engine) (ord : Order) (id : ActorId) :
    (afterDrain engine ord).runtime.actors.lookup id = (engine.runtime.actors.lookup id).map (nextActor engine) :=
  tick_running inv.consistent.toWired inv.active inv.running ord _ id

theorem Sound.lookup_applyEffects (inv : Sound cfg ids engine) (ord : Order) (id : ActorId) :
    (engine.applyEffects ord).runtime.actors.lookup id =
      (engine.runtime.actors.lookup id).map (nextActor engine) := by
  rw [(effected_applyEffects engine ord).actors]
  exact inv.lookup_afterDrain ord id

theorem centred_afterDrain (inv : Wired engine.runtime) (centred : Centred engine []) (ord : Order) :
    Centred (afterDrain engine ord) (engine.runtime.tick ord (engine.tickCount + 1)).1 := by
  have tick := tick_spec inv ord (engine.tickCount + 1)
  intro session anchor cell actor window live
  rw [afterDrain, tick.lookup, Option.filter_eq_some_iff, Option.map_eq_some_iff] at live
  obtain ⟨⟨old, found, rfl⟩, -⟩ := live
  have here : cell = old.state.cell := by
    rcases centred session anchor cell old window found with here | ⟨dest, member⟩
    · exact here
    · cases member
  -- a tick changes the cell of an actor only by a move of that actor
  rcases afterTick_cell engine.runtime.grid.cellSize (engine.tickCount + 1)
    (engine.runtime.inboxes.pending old.inbox) old with same | ⟨dest, moved, -, -⟩
  · exact .inl (here.trans same.symm)
  · refine .inr ⟨dest, ?_⟩
    rw [tick.effects, List.mem_flatMap]
    rw [(inv.keyed anchor old found).1] at moved
    exact ⟨⟨anchor, old⟩, ord.mem_visit.mpr (HashMap.mem_entries_iff.mpr found), moved⟩

theorem centred_applyEffects (inv : Wired engine.runtime) (centred : Centred engine []) (ord : Order) :
    Centred (engine.applyEffects ord) [] :=
  centred_effects _ (tick_spec inv ord _).wired (centred_afterDrain inv centred ord)

theorem nextActor_lifecycle (inv : Sound cfg ids engine) {id : ActorId} {actor : Actor}
    (found : engine.runtime.actors.lookup id = some actor) : (nextActor engine actor).lifecycle = .Active := by
  rw [nextActor, ticked, afterTick_lifecycle, drained, (drainInbox_running (inv.running _) _).1]
  exact inv.active id actor found

theorem Sound.applyEffects (inv : Sound cfg ids engine) (ord : Order) : Sound cfg ids (engine.applyEffects ord) := by
  have tick := tick_spec inv.consistent.toWired ord (engine.tickCount + 1)
  have effected := effected_applyEffects engine ord
  refine ⟨effected.consistent (inv.consistent.tick ord _), ?_, effected.radius.trans inv.radius, ?_, ?_, ?_, ?_,
    centred_applyEffects inv.consistent.toWired inv.centred ord, ?_⟩
  · rw [effected.grid]
    exact tick.cellSize.trans inv.cellSize
  · intro id live
    obtain ⟨actor, found⟩ := HashMap.lookup_of_mem live
    rw [inv.lookup_applyEffects, Option.map_eq_some_iff] at found
    obtain ⟨old, before, -⟩ := found
    exact inv.used id (HashMap.mem_of_lookup before)
  · intro id actor found
    rw [inv.lookup_applyEffects, Option.map_eq_some_iff] at found
    obtain ⟨old, before, rfl⟩ := found
    exact nextActor_lifecycle inv before
  · intro ref member
    rcases effected.pending ref _ member with old | new
    · exact inv.running ref (tick.kept ref _ old)
    · exact new
  · intro session entry found
    have same := effected.anchors session
    rw [found, Option.map_some] at same
    obtain ⟨before, there, equal⟩ := Option.map_eq_some_iff.mp same.symm
    rw [← equal]
    exact inv.anchored session before there
  · intro session
    rw [effected.mem_sessionQueues]
    exact (mem_of_map_eq (effected.anchors session)).trans (inv.queued session)

theorem Sound.pushDeltas (inv : Sound cfg ids engine) (ord : Order) (clock : SessionId → UInt64) :
    Sound cfg ids (engine.pushDeltas ord clock) := by
  obtain ⟨queues, pushed, lookup⟩ := pushDeltas_spec engine ord clock
  rw [pushed]
  refine inv.congr rfl rfl fun session => ?_
  change session ∈ queues ↔ _
  rw [← AList.lookup_isSome, ← AList.lookup_isSome, lookup]
  split_ifs
  · rw [Option.isSome_map]
  · rfl

theorem Sound.tick (inv : Sound cfg ids engine) (ord : Order) (clock : SessionId → UInt64) :
    Sound cfg ids (engine.tick ord clock) :=
  (inv.applyEffects ord).pushDeltas ord clock

theorem nextActor_state (engine : WorldEngine) (actor : Actor) :
    (nextActor engine actor).state.tick = engine.tickCount + 1 ∧
      (nextActor engine actor).state.id = actor.state.id :=
  let same := afterTick_same engine.runtime.grid.cellSize (engine.tickCount + 1)
    (engine.runtime.inboxes.pending actor.inbox) actor
  ⟨same.tick, same.id⟩

/-- What the last step of a tick leaves of the engine that processed the effects. -/
structure Finished (engine after : WorldEngine) (ord : Order) : Prop where
  runtime : after.runtime = engine.runtime
  interest : after.interest = engine.interest
  tickCount : after.tickCount = engine.tickCount
  sessionToActor : after.sessionToActor = engine.sessionToActor
  prevSnapshot : after.prevSnapshot = engine.runtime.snapshotAll ord
  removedThisTick : after.removedThisTick = []

theorem finished_tick (engine : WorldEngine) (ord : Order) (clock : SessionId → UInt64) :
    Finished (engine.applyEffects ord) (engine.tick ord clock) ord := by
  obtain ⟨queues, pushed, -⟩ := pushDeltas_spec (engine.applyEffects ord) ord clock
  rw [WorldEngine.tick, pushed]
  exact ⟨rfl, rfl, rfl, rfl, rfl, rfl⟩

theorem Sound.lookup_tick (inv : Sound cfg ids engine) (ord : Order)
    (clock : SessionId → UInt64) (id : ActorId) :
    (engine.tick ord clock).runtime.actors.lookup id =
      (engine.runtime.actors.lookup id).map (nextActor engine) := by
  rw [(finished_tick engine ord clock).runtime]
  exact inv.lookup_applyEffects ord id

theorem Sound.mem_tick (inv : Sound cfg ids engine) (ord : Order)
    (clock : SessionId → UInt64) (id : ActorId) :
    id ∈ (engine.tick ord clock).runtime.actors ↔ id ∈ engine.runtime.actors := by
  rw [← AList.lookup_isSome, ← AList.lookup_isSome, inv.lookup_tick, Option.isSome_map]

/-! ## All reachable states -/

theorem Sound.call (call : EngineCall) (inv : Sound cfg ids engine)
    (fresh : ∀ spec ∈ call.spawned, spec.id ∉ ids) (running : call.sent ≠ some .Shutdown) :
    Sound cfg ((call.spawned.map ActorSpec.id).toList ++ ids) (call.apply engine) := by
  cases call with
  | spawnActorForSession ord spec session => exact inv.spawnActorForSession (fresh spec rfl) session
  | spawnActorStandalone spec => exact inv.spawn (fresh spec rfl)
  | removeSession session despawn => exact inv.removeSession session despawn
  | despawnActor id => exact (inv.despawn id).congr rfl rfl fun _ => Iff.rfl
  | send handle msg => exact inv.send handle fun same => running (congrArg some same)
  | applyDirective directive => exact inv.applyDirective directive
  | broadcastWorldEvent message => exact inv.broadcastWorldEvent message
  | drainSession session => exact inv.drainSession session
  | tick ord clock => exact inv.tick ord clock

theorem distinct_of_no_spawn (w : World) {call : EngineCall} (none : call.spawned = none) : w.Distinct call := by
  intro spec spawned
  rw [none] at spawned
  cases spawned

end LiveWorld.Proof.Engine

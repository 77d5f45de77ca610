import LiveWorld.Proof.Engine.Calls
import LiveWorld.Spec.Shard

/-!
# What a session sees of its engine

Every live actor is filed where it is, and every window is centred on its anchor, even if ids are used
again: an actor may then be filed in other cells as well, but the delta of a tick misses nobody around the anchor.
-/

namespace LiveWorld.Proof.Engine
open HashTable Machine Spec Proof.Runtime
variable {grid : SpatialGrid} {rt : ActorRuntime} {engine after : WorldEngine} {ord : Order} {radius : Int}

/-! ## Filed in its cell -/

def InI32 (cell : GridCell) : Prop := (minI32 ≤ cell.x ∧ cell.x ≤ maxI32) ∧ minI32 ≤ cell.y ∧ cell.y ≤ maxI32

theorem inI32_toGridCell (pos : Position) (cellSize : Rat) : InI32 (pos.toGridCell cellSize) := by
  have coordinate (z : Int) : minI32 ≤ saturateI32 z ∧ saturateI32 z ≤ maxI32 := by
    unfold saturateI32 minI32 maxI32
    omega
  exact ⟨coordinate _, coordinate _⟩

structure Moved (before after : SpatialGrid) (id : ActorId) (cell : GridCell) : Prop where
  here : Filed after cell id
  others : ∀ there other, other ≠ id → Filed before there other → Filed after there other

theorem moved_moveActor {id : ActorId} {cell : GridCell} (here : Filed grid cell id) (pos : Position) :
    Moved grid (grid.moveActor id cell pos).2 id (pos.toGridCell grid.cellSize) := by
  unfold SpatialGrid.moveActor
  simp only
  split_ifs with same
  · refine ⟨?_, fun _ _ _ filed => filed⟩
    rw [same] at here
    exact here
  · constructor
    · exact filed_file.mpr (.inl ⟨rfl, rfl⟩)
    · intro there other different filed
      rw [filed_file, filed_remove]
      exact .inr ⟨filed, fun both => different both.2⟩

theorem moved_applyMoves {id : ActorId} {actor : Actor} (effects : List ActorEffect)
    (own : ∀ effect ∈ effects, OwnMove id effect) (here : Filed grid actor.state.cell id) :
    Moved grid (ActorRuntime.applyMoves grid actor effects).1 id
      (ActorRuntime.applyMoves grid actor effects).2.state.cell := by
  induction effects generalizing grid actor with
  | nil => exact ⟨here, fun _ _ _ filed => filed⟩
  | cons effect rest ih =>
      have later : ∀ effect ∈ rest, OwnMove id effect := fun e member => own e (List.mem_cons_of_mem _ member)
      cases effect with
      | Move mover dest =>
          obtain rfl : mover = id := own _ List.mem_cons_self
          have first := moved_moveActor here dest
          rw [← moveActor_cell grid mover actor.state.cell dest] at first
          have second := @ih _ (actor.applyMove dest (grid.moveActor mover actor.state.cell dest).1) later first.here
          exact ⟨second.here, fun there other different filed =>
            second.others there other different (first.others there other different filed)⟩
      | _ => exact ih later here

def Lodged (rt : ActorRuntime) : Prop :=
  ∀ id actor, rt.actors.lookup id = some actor → Filed rt.grid actor.state.cell id ∧ InI32 actor.state.cell

theorem Lodged.spawn (lodged : Lodged rt) (spec : ActorSpec) : Lodged (rt.spawnActor spec).2 := by
  intro id actor found
  change Filed (rt.grid.file _ _) _ _ ∧ _
  rw [filed_file]
  rcases spawnActor_either found with ⟨rfl, rfl⟩ | ⟨-, old⟩
  · exact ⟨.inl ⟨rfl, rfl⟩, inI32_toGridCell _ _⟩
  · exact ⟨.inr (lodged id actor old).1, (lodged id actor old).2⟩

theorem Lodged.despawn (lodged : Lodged rt) (gone : ActorId) : Lodged (rt.despawnActor gone).2 := by
  unfold ActorRuntime.despawnActor
  cases rt.actors.lookup gone with
  | none => exact lodged
  | some leaver =>
      intro id actor found
      rw [HashMap.lookup_erase_eq] at found
      split_ifs at found with different
      rw [filed_remove]
      exact ⟨⟨(lodged id actor found).1, fun both => different both.2⟩, (lodged id actor found).2⟩

theorem Lodged.tickActor {loop : ActorRuntime.TickLoop} {id : ActorId} {actor : Actor} (tickNum : UInt64)
    (lodged : Lodged loop.runtime) (inv : Wired loop.runtime) (found : loop.runtime.actors.lookup id = some actor) :
    Lodged (ActorRuntime.tickActor tickNum loop ⟨id, actor⟩).runtime := by
  have key := (inv.keyed id actor found).1
  have cell : (drained tickNum (loop.runtime.inboxes.pending actor.inbox) actor).1.state.cell = actor.state.cell :=
    (drainInbox_same (actor.tick tickNum) _).2
  have own := drainInbox_ownMove (actor.tick tickNum) (loop.runtime.inboxes.pending actor.inbox)
  have here : Filed loop.runtime.grid
      (drained tickNum (loop.runtime.inboxes.pending actor.inbox) actor).1.state.cell id :=
    cell ▸ (lodged id actor found).1
  have moved := moved_applyMoves (effectsOf loop.runtime tickNum actor) (key ▸ own) here
  rw [applyMoves_drained] at moved
  rw [tickActor_eq tickNum loop key]
  intro other actor' there
  rw [HashMap.lookup_insert_eq] at there
  split_ifs at there with same
  · cases there
    rw [same]
    refine ⟨moved.here, ?_⟩
    rcases afterTick_cell loop.runtime.grid.cellSize tickNum (loop.runtime.inboxes.pending actor.inbox) actor with
      here | ⟨dest, -, -, there⟩
    · rw [here]
      exact (lodged id actor found).2
    · rw [there]
      exact inI32_toGridCell _ _
  · exact ⟨moved.others _ _ same (lodged other actor' there).1, (lodged other actor' there).2⟩

theorem lodged_rounds (tickNum : UInt64) (loop : ActorRuntime.TickLoop) (todo : List ((_ : ActorId) × Actor))
    (lodged : Lodged loop.runtime) (inv : Wired loop.runtime) (visits : Visits loop.runtime todo) :
    Lodged (todo.foldl (ActorRuntime.tickActor tickNum) loop).runtime := by
  induction todo generalizing loop with
  | nil => exact lodged
  | cons entry rest ih =>
      obtain ⟨id, actor⟩ := entry
      have first := round tickNum inv visits.head
      exact ih _ (lodged.tickActor tickNum inv visits.head) first.wired (visits.tail first)

theorem Lodged.despawnAll (lodged : Lodged rt) (ids : List ActorId) : Lodged (despawnAll rt ids) := by
  induction ids generalizing rt with
  | nil => exact lodged
  | cons first rest ih => exact ih (lodged.despawn first)

theorem Lodged.tick (lodged : Lodged rt) (inv : Wired rt) (ord : Order) (tickNum : UInt64) :
    Lodged (rt.tick ord tickNum).2 :=
  (lodged_rounds tickNum ⟨rt, [], []⟩ _ lodged inv (visits_all rt ord)).despawnAll
    ((ord.visit rt.actors.entries).foldl (ActorRuntime.tickActor tickNum) ⟨rt, [], []⟩).toDespawn

theorem Lodged.congr {rt' : ActorRuntime} (lodged : Lodged rt) (actors : rt'.actors = rt.actors) (grid : rt'.grid = rt.grid) :
    Lodged rt' := by
  intro id actor found
  rw [actors] at found
  rw [grid]
  exact lodged id actor found

/-! ## The windows -/

/-- The windows of the sessions are centred on live anchors, and each session has a queue. -/
structure Windows (radius : Int) (engine : WorldEngine) : Prop where
  wired : Wired engine.runtime
  lodged : Lodged engine.runtime
  radius : engine.interest.radius = radius
  centred : Centred engine []
  queued : ∀ session ∈ engine.interest.sessionAnchors, session ∈ engine.sessionQueues

theorem windows_new (cfg : WorldConfig) : Windows cfg.interestRadius (WorldEngine.new cfg) := by
  refine ⟨(consistent_new cfg).toWired, ?_, rfl, ?_, fun _ member => member⟩
  · exact fun id _ found => absurd (HashMap.mem_of_lookup found) (AList.notMem_empty id)
  · exact fun session _ _ _ found => absurd (HashMap.mem_of_lookup found) (AList.notMem_empty session)

theorem Windows.effected {allowed : ActorMessage → Prop} (inv : Windows radius engine)
    (effected : Effected allowed engine after) (centred : Centred after []) : Windows radius after := by
  refine ⟨effected.wired inv.wired, inv.lodged.congr effected.actors effected.grid, effected.radius.trans inv.radius,
    centred, ?_⟩
  intro session member
  rw [effected.mem_sessionQueues]
  exact inv.queued session ((mem_of_map_eq (effected.anchors session)).mp member)

-- who leaves takes no window along
theorem Windows.fewer (inv : Windows radius engine) (wired : Wired after.runtime) (lodged : Lodged after.runtime)
    (actors : ∀ id actor, after.runtime.actors.lookup id = some actor → engine.runtime.actors.lookup id = some actor)
    (same : after.interest.radius = engine.interest.radius)
    (windows : ∀ session entry, after.interest.sessionAnchors.lookup session = some entry →
      engine.interest.sessionAnchors.lookup session = some entry ∧ session ∈ after.sessionQueues) :
    Windows radius after := by
  refine ⟨wired, lodged, same.trans inv.radius, ?_, ?_⟩
  · intro session anchor cell actor window live
    exact inv.centred session anchor cell actor (windows session _ window).1 (actors anchor actor live)
  · intro session member
    obtain ⟨entry, window⟩ := HashMap.lookup_of_mem member
    exact (windows session entry window).2

theorem Windows.despawn (inv : Windows radius engine) (gone : ActorId) :
    Windows radius { engine with runtime := (engine.runtime.despawnActor gone).2 } := by
  refine inv.fewer (inv.wired.despawn gone) (inv.lodged.despawn gone) ?_ rfl ?_
  · intro id actor found
    rw [despawnActor_lookup] at found
    split_ifs at found
    exact found
  · exact fun session entry window => ⟨window, inv.queued session (HashMap.mem_of_lookup window)⟩

theorem Windows.removeSession (inv : Windows radius engine) (session : SessionId) (despawn : Bool) :
    Windows radius (engine.removeSession session despawn) := by
  have interest := removeSession_interest engine session despawn
  have left : Windows radius { engine with runtime := (engine.removeSession session despawn).runtime } := by
    rcases removeSession_runtime engine session despawn with same | ⟨id, same⟩
    · rw [same]
      exact inv
    · rw [same]
      exact inv.despawn id
  refine left.fewer left.wired left.lodged (fun _ _ found => found) (by rw [interest]; rfl) ?_
  intro other entry window
  rw [interest, InterestManager.unregister, HashMap.lookup_erase_eq] at window
  split_ifs at window with different
  rw [removeSession_queues, AList.mem_erase]
  exact ⟨window, different, inv.queued other (HashMap.mem_of_lookup window)⟩

theorem Windows.drainSession (inv : Windows radius engine) (session : SessionId) :
    Windows radius (engine.drainSession session).2 := by
  unfold WorldEngine.drainSession
  cases engine.sessionQueues.lookup session with
  | none => exact inv
  | some queue =>
      refine ⟨inv.wired, inv.lodged, inv.radius, inv.centred, fun other member => ?_⟩
      exact (AList.mem_insert _).mpr (.inr (inv.queued other member))

theorem Windows.spawn (inv : Windows radius engine) {spec : ActorSpec} {interest : InterestManager}
    {sessionQueues : HashMap SessionId SessionQueue} {sessionToActor : HashMap SessionId ActorId}
    (same : interest.radius = engine.interest.radius)
    (windows : ∀ session anchor cell, interest.sessionAnchors.lookup session = some (anchor, cell) →
      session ∈ sessionQueues ∧
        ((anchor = spec.id ∧ cell = spec.position.toGridCell engine.runtime.grid.cellSize) ∨
          (anchor ≠ spec.id ∧ engine.interest.sessionAnchors.lookup session = some (anchor, cell)))) :
    Windows radius
      { engine with runtime := (engine.runtime.spawnActor spec).2, interest, sessionQueues, sessionToActor } := by
  refine ⟨inv.wired.spawn spec, inv.lodged.spawn spec, same.trans inv.radius, ?_, ?_⟩
  · intro session anchor cell actor window live
    rcases spawnActor_either live with ⟨rfl, rfl⟩ | ⟨different, old⟩
    · rcases (windows session _ cell window).2 with ⟨-, here⟩ | ⟨other, -⟩
      · exact .inl here
      · exact absurd rfl other
    · rcases (windows session anchor cell window).2 with ⟨new, -⟩ | ⟨-, before⟩
      · exact absurd new different
      · exact inv.centred session anchor cell actor before old
  · intro session member
    obtain ⟨⟨anchor, cell⟩, window⟩ := HashMap.lookup_of_mem member
    exact (windows session anchor cell window).1

theorem Windows.applyEffects (inv : Windows radius engine) (ord : Order) :
    Windows radius (engine.applyEffects ord) := by
  have effected := effected_applyEffects engine ord
  refine ⟨effected.wired (tick_spec inv.wired ord _).wired, ?_, effected.radius.trans inv.radius,
    centred_applyEffects inv.wired inv.centred ord, ?_⟩
  · exact (inv.lodged.tick inv.wired ord (engine.tickCount + 1)).congr effected.actors effected.grid
  · intro session member
    rw [effected.mem_sessionQueues]
    exact inv.queued session ((mem_of_map_eq (effected.anchors session)).mp member)

/-- The windows, and the tick that the last snapshot was taken in. -/
structure Watching (radius : Int) (engine : WorldEngine) : Prop extends Windows radius engine where
  stamped : ∀ s ∈ engine.prevSnapshot, s.tick = engine.tickCount

theorem applyEffects_lookup (inv : Wired engine.runtime) (ord : Order) {id : ActorId} {actor : Actor}
    (found : (engine.applyEffects ord).runtime.actors.lookup id = some actor) :
    ∃ old, engine.runtime.actors.lookup id = some old ∧ actor = nextActor engine old ∧ actor.isAlive = true := by
  rw [(effected_applyEffects engine ord).actors, afterDrain, (tick_spec inv ord _).lookup, Option.filter_eq_some_iff,
    Option.map_eq_some_iff] at found
  obtain ⟨⟨old, before, rfl⟩, alive⟩ := found
  exact ⟨old, before, rfl, alive⟩

theorem Windows.stamped (inv : Windows radius engine) (ord : Order) :
    ∀ s ∈ (engine.applyEffects ord).runtime.snapshotAll ord, s.tick = engine.tickCount + 1 := by
  intro s member
  obtain ⟨id, actor, found, rfl⟩ := mem_snapshot.mp member
  obtain ⟨old, -, rfl, -⟩ := applyEffects_lookup inv.wired ord found
  exact (nextActor_state engine old).1

theorem Windows.call (call : EngineCall) (inv : Windows radius engine)
    (inView : ∀ spec ∈ call.spawned, InView engine spec call.registered) : Windows radius (call.apply engine) := by
  cases call with
  | spawnActorForSession ord spec session =>
      refine inv.spawn rfl ?_
      intro other anchor cell window
      change (engine.interest.sessionAnchors.insert _ _).lookup _ = _ at window
      rw [HashMap.lookup_insert_eq] at window
      split_ifs at window with mine
      · cases window
        refine ⟨(AList.mem_insert _).mpr (.inl mine), .inl ⟨rfl, ?_⟩⟩
        refine (congrArg (fun found => (Option.map ActorState.cell found).getD ⟨0, 0⟩)
          (find_snapshot (inv.wired.spawn spec) ord spec.id)).trans ?_
        rw [spawnActor_lookup, if_pos rfl]
        rfl
      · refine ⟨(AList.mem_insert _).mpr (.inr (inv.queued other (HashMap.mem_of_lookup window))), ?_⟩
        by_cases same : anchor = spec.id
        · subst same
          exact .inl ⟨rfl, inView spec rfl other cell (fun equal => mine (Option.some.inj equal).symm) window⟩
        · exact .inr ⟨same, window⟩
  | spawnActorStandalone spec =>
      refine inv.spawn rfl ?_
      intro session anchor cell window
      refine ⟨inv.queued session (HashMap.mem_of_lookup window), ?_⟩
      by_cases same : anchor = spec.id
      · subst same
        exact .inl ⟨rfl, inView spec rfl session cell (Option.some_ne_none session).symm window⟩
      · exact .inr ⟨same, window⟩
  | removeSession session despawn => exact inv.removeSession session despawn
  | despawnActor id =>
      have left := inv.despawn id
      exact ⟨left.wired, left.lodged, left.radius, left.centred, left.queued⟩
  | send handle msg =>
      exact inv.effected (effected_send engine handle msg)
        (inv.centred.of_interest (effected_send engine handle msg) rfl)
  | applyDirective directive =>
      have effected := effected_applyDirective engine directive
      refine inv.effected effected (inv.centred.of_interest effected ?_)
      cases directive with
      | ForceMove id dest => exact sendToActor_interest engine id (.Move dest)
      | _ => rfl
  | broadcastWorldEvent message =>
      have effected : Effected (fun _ => False) _ _ := effected_broadcastWorldEvent engine message
      exact inv.effected effected inv.centred
  | drainSession session => exact inv.drainSession session
  | tick ord clock =>
      have mid := inv.applyEffects ord
      have finished := finished_tick engine ord clock
      rw [EngineCall.apply]
      refine mid.fewer (finished.runtime ▸ mid.wired) (finished.runtime ▸ mid.lodged) ?_ (by rw [finished.interest]) ?_
      · rw [finished.runtime]
        exact fun _ _ found => found
      · intro session entry window
        rw [finished.interest] at window
        refine ⟨window, (mem_sessionQueues_tick engine ord clock session).mpr ?_⟩
        exact ((effected_applyEffects engine ord).mem_sessionQueues session).mp
          (mid.queued session (HashMap.mem_of_lookup window))

theorem Watching.call (call : EngineCall) (inv : Watching radius engine)
    (inView : ∀ spec ∈ call.spawned, InView engine spec call.registered) : Watching radius (call.apply engine) := by
  refine ⟨inv.toWindows.call call inView, ?_⟩
  cases ticks : call.isTick with
  | false =>
      rw [prevSnapshot_call call ticks, tickCount_call, ticks]
      exact inv.stamped
  | true =>
      rw [tickCount_call, ticks, if_pos rfl]
      cases call with
      | tick ord clock =>
          rw [EngineCall.apply, (finished_tick engine ord clock).prevSnapshot]
          exact inv.toWindows.stamped ord
      | _ => cases ticks

/-! ## The delta of a tick -/

theorem mem_queryRadius_of_near {center cell : GridCell} {id : ActorId} (filed : Filed grid cell id)
    (range : InI32 cell) (most : radius ≤ maxI32) (near : cell.chebyshev center ≤ radius) :
    id ∈ grid.queryRadius ord center radius := by
  simp only [GridCell.chebyshev, max_le_iff, abs_le] at near
  have negated : wrapI32 (-radius) = -radius := by
    apply wrapI32_of_range
    · unfold minI32 maxI32 at *
      omega
    · omega
  have slot : id ∈ grid.idsIn ord cell := by
    obtain ⟨set, found, member⟩ := filed
    rw [SpatialGrid.idsIn, found]
    exact ord.mem_visit.mpr (AList.mem_keys.mp member)
  simp only [SpatialGrid.queryRadius, List.mem_flatMap, mem_rangeInclusive, negated]
  refine ⟨cell.x - center.x, by omega, cell.y - center.y, by omega, ?_⟩
  rw [add_sub_cancel, add_sub_cancel, wrapI32_of_range range.1.1 range.1.2, wrapI32_of_range range.2.1 range.2.2]
  exact slot

theorem getLast_offerDelta {delta : StateDelta} (worthy : ¬Worthless delta) (queue : SessionQueue) :
    (offerDelta delta queue).getLast? = some (.Delta delta) := by
  rw [offerDelta, if_neg worthy, WorldEngine.pushDelta, List.getLast?_concat]

theorem Watching.sees (inv : Watching radius engine) (most : radius ≤ maxI32) (ord : Order)
    (clock : SessionId → UInt64) {session : SessionId} {anchor id : ActorId} {cell : GridCell} {mine actor : Actor}
    (window : (engine.tick ord clock).interest.sessionAnchors.lookup session = some (anchor, cell))
    (live : (engine.tick ord clock).runtime.actors.lookup anchor = some mine)
    (found : (engine.tick ord clock).runtime.actors.lookup id = some actor)
    (near : actor.state.cell.chebyshev mine.state.cell ≤ radius) :
    ∃ queue delta, (engine.tick ord clock).sessionQueues.lookup session = some queue ∧
      queue.getLast? = some (.Delta delta) ∧ delta.tick = engine.tickCount + 1 ∧ actor.state ∈ delta.updates := by
  have finished := finished_tick engine ord clock
  have mid := inv.toWindows.applyEffects ord
  rw [finished.interest] at window
  rw [finished.runtime] at live found
  have here : cell = mine.state.cell := by
    rcases mid.centred session anchor cell mine window live with here | ⟨dest, member⟩
    · exact here
    · cases member
  have visible : id ∈ (engine.applyEffects ord).interest.visibleActors ord session
      (engine.applyEffects ord).runtime.grid := by
    simp only [InterestManager.visibleActors, window]
    rw [mid.radius, here]
    exact mem_queryRadius_of_near (mid.lodged id actor found).1 (mid.lodged id actor found).2 most near
  have changed : actor.state ∈ (tickDiff (engine.applyEffects ord) ord).1 := by
    refine ((diffStates_changed ord (snapshot_distinct mid.wired ord) ?_).2 _).mpr (mem_snapshot.mpr ⟨id, actor, found, rfl⟩)
    intro prev before curr now
    rw [(effected_applyEffects engine ord).prevSnapshot] at before
    rw [inv.stamped prev before, inv.toWindows.stamped ord curr now]
    exact tick_ne_succ _
  have updated : actor.state ∈ (tickDelta (engine.applyEffects ord) ord clock session).updates := by
    refine List.mem_filter.mpr ⟨changed, decide_eq_true ?_⟩
    rw [(mid.wired.keyed id actor found).2]
    exact visible
  have member := HashMap.mem_of_lookup window
  obtain ⟨queue, queued⟩ := HashMap.lookup_of_mem (mid.queued session member)
  obtain ⟨queues, pushed, lookup⟩ := pushDeltas_spec (engine.applyEffects ord) ord clock
  refine ⟨_, tickDelta (engine.applyEffects ord) ord clock session, ?_, getLast_offerDelta ?_ queue, ?_, updated⟩
  · rw [WorldEngine.tick, pushed]
    exact (lookup session).trans (by rw [if_pos member, queued, Option.map_some])
  · intro worthless
    rw [worthless.1] at updated
    cases updated
  · exact (effected_applyEffects engine ord).tickCount

/-! ## Where the actors end up -/

theorem relocate_restingCell (cellSize : Rat) {messages : List ActorMessage} (staying : .Shutdown ∉ messages)
    (actor drainer : Actor) :
    (relocate cellSize actor (drainer.drainInbox messages).2.1).state.cell =
      restingCell cellSize actor.state.cell messages := by
  induction messages generalizing actor drainer with
  | nil => rfl
  | cons msg rest ih =>
      rw [List.mem_cons, not_or] at staying
      have other : msg ≠ .Shutdown := fun same => staying.1 same.symm
      simp only [Actor.drainInbox, if_neg other, relocate, List.foldl_append]
      refine (ih staying.2 _ _).trans ?_
      cases msg with
      | TakeDamage amount fromName =>
          simp only [Actor.handleMessage, Actor.takeDamage]
          split_ifs <;> rfl
      | GainXp amount =>
          simp only [Actor.handleMessage, Actor.gainXp]
          split_ifs <;> rfl
      | _ => rfl

theorem drainInbox_shutdown {messages : List ActorMessage} (member : .Shutdown ∈ messages) (actor : Actor) :
    (actor.drainInbox messages).1.lifecycle = .ShuttingDown := by
  induction messages generalizing actor with
  | nil => cases member
  | cons msg rest ih =>
      simp only [Actor.drainInbox]
      split_ifs with last
      · subst last
        rfl
      · exact ih ((List.mem_cons.mp member).resolve_left fun same => last same.symm) _

theorem tick_bound (inv : Wired engine.runtime) (ord : Order) (clock : SessionId → UInt64) {id : ActorId} {actor : Actor}
    (found : (engine.tick ord clock).runtime.actors.lookup id = some actor) :
    ∃ old, engine.runtime.actors.lookup id = some old ∧ Staying engine old ∧ actor.state.cell = bound engine old := by
  rw [(finished_tick engine ord clock).runtime] at found
  obtain ⟨old, before, rfl, alive⟩ := applyEffects_lookup inv ord found
  have staying : Staying engine old := by
    intro member
    rw [Actor.isAlive, nextActor, ticked, afterTick_lifecycle, drained, drainInbox_shutdown member] at alive
    cases alive
  refine ⟨old, before, staying, ?_⟩
  refine (relocate_restingCell engine.runtime.grid.cellSize staying _ _).trans ?_
  rw [drained, (drainInbox_same (old.tick (engine.tickCount + 1)) _).2]
  rfl

end LiveWorld.Proof.Engine

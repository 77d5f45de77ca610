import LiveWorld.Proof.Engine.Steady

/-!
# Every delta is exact
-/

namespace LiveWorld.Proof.Engine
open HashTable Spec Proof.Runtime
variable {cfg : WorldConfig} {w : World} {ord : Order} {clock : SessionId → UInt64}

abbrev ticking (w : World) (ord : Order) : WorldEngine := w.engine.applyEffects ord

theorem Steady.newTick (inv : Steady cfg w) (ord : Order) :
    ∀ prev ∈ (ticking w ord).prevSnapshot, ∀ curr ∈ (ticking w ord).runtime.snapshotAll ord,
      prev.tick ≠ curr.tick := by
  intro prev before curr now
  rw [(effected_applyEffects w.engine ord).prevSnapshot] at before
  rw [mem_snapshot] at now
  obtain ⟨id, actor, found, rfl⟩ := now
  rw [inv.lookup_applyEffects, Option.map_eq_some_iff] at found
  obtain ⟨old, -, rfl⟩ := found
  rw [(inv.prev prev before).1, (nextActor_state w.engine old).1]
  exact tick_ne_succ _

theorem Steady.mem_visible (inv : Steady cfg w) (valid : ValidConfig cfg) {session : SessionId} {anchor id : ActorId}
    {cell : GridCell} {centre actor : Actor}
    (window : (ticking w ord).interest.sessionAnchors.lookup session = some (anchor, cell))
    (live : (ticking w ord).runtime.actors.lookup anchor = some centre)
    (found : (ticking w ord).runtime.actors.lookup id = some actor) :
    id ∈ (ticking w ord).interest.visibleActors ord session (ticking w ord).runtime.grid ↔
      actor.state.cell.chebyshev centre.state.cell ≤ cfg.interestRadius := by
  have sound := inv.toSound.applyEffects ord
  have cells : ∀ id actor, (ticking w ord).runtime.actors.lookup id = some actor → InRange actor.state.cell := by
    intro id actor found
    rw [inv.lookup_applyEffects, Option.map_eq_some_iff] at found
    obtain ⟨old, before, rfl⟩ := found
    exact inv.nextActor_cell valid before
  have here : cell = centre.state.cell := by
    rcases sound.centred session anchor cell centre window live with here | ⟨dest, member⟩
    · exact here
    · cases member
  have filed : ∀ there other, Filed (ticking w ord).runtime.grid there other → InRange there := by
    intro there other filed
    obtain ⟨owner, stored⟩ := HashMap.lookup_of_mem (sound.consistent.onlyLive there other filed)
    rw [(sound.consistent.filed other owner stored there).mp filed]
    exact cells other owner stored
  simp only [InterestManager.visibleActors, window]
  rw [sound.radius, here, mem_queryRadius filed (cells anchor centre live) valid.radiusNonneg valid.radiusI32]
  constructor
  · intro given
    obtain ⟨there, placed, near⟩ := given
    rw [(sound.consistent.filed id actor found there).mp placed] at near
    exact near
  · intro near
    exact ⟨_, (sound.consistent.filed id actor found _).mpr rfl, near⟩

theorem Steady.mem_removed (inv : Steady cfg w) (session : SessionId) (id : ActorId) :
    id ∈ (tickDelta (ticking w ord) ord clock session).removed ↔ id ∈ w.despawned := by
  have effected := effected_applyEffects w.engine ord
  have current : (∃ s ∈ (ticking w ord).runtime.snapshotAll ord, s.id = id) ↔ id ∈ w.engine.runtime.actors := by
    constructor
    · rintro ⟨s, member, rfl⟩
      obtain ⟨key, actor, found, rfl⟩ := mem_snapshot.mp member
      rw [((inv.toSound.applyEffects ord).consistent.keyed key actor found).2]
      rw [inv.lookup_applyEffects, Option.map_eq_some_iff] at found
      obtain ⟨old, before, -⟩ := found
      exact HashMap.mem_of_lookup before
    · intro live
      obtain ⟨old, before⟩ := HashMap.lookup_of_mem live
      have after : (ticking w ord).runtime.actors.lookup id = some (nextActor w.engine old) := by
        rw [inv.lookup_applyEffects, before, Option.map_some]
      exact ⟨_, mem_snapshot.mpr ⟨id, _, after, rfl⟩,
        ((inv.toSound.applyEffects ord).consistent.keyed id _ after).2⟩
  have prev : (ticking w ord).prevSnapshot = w.engine.prevSnapshot := effected.prevSnapshot
  have removals : (ticking w ord).removedThisTick = w.engine.removedThisTick := effected.removedThisTick
  simp only [tickDelta, deltaFor, tickDiff, List.mem_append, diffStates_removed, current, prev, removals, inv.removals]
  constructor
  · rintro (⟨⟨s, member, rfl⟩, dead⟩ | gone)
    · exact (inv.prev s member).2.resolve_left dead
    · exact gone
  · exact .inr

theorem Steady.mem_updates (inv : Steady cfg w) (valid : ValidConfig cfg) {session : SessionId} {anchor : ActorId}
    {cell : GridCell} {centre : Actor}
    (window : (ticking w ord).interest.sessionAnchors.lookup session = some (anchor, cell))
    (live : (ticking w ord).runtime.actors.lookup anchor = some centre) (s : ActorState) :
    s ∈ (tickDelta (ticking w ord) ord clock session).updates ↔
      ∃ id actor, (ticking w ord).runtime.actors.lookup id = some actor ∧ actor.state = s ∧
        actor.state.cell.chebyshev centre.state.cell ≤ cfg.interestRadius := by
  have sound := inv.toSound.applyEffects ord
  have changed := diffStates_changed ord (snapshot_distinct sound.consistent.toWired ord) (inv.newTick ord)
  simp only [tickDelta, deltaFor, tickDiff, List.mem_filter, changed.2, decide_eq_true_eq]
  constructor
  · intro given
    obtain ⟨member, visible⟩ := given
    obtain ⟨id, actor, found, rfl⟩ := mem_snapshot.mp member
    rw [(sound.consistent.keyed id actor found).2, inv.mem_visible valid window live found] at visible
    exact ⟨id, actor, found, rfl, visible⟩
  · rintro ⟨id, actor, found, rfl, near⟩
    refine ⟨mem_snapshot.mpr ⟨id, actor, found, rfl⟩, ?_⟩
    rw [(sound.consistent.keyed id actor found).2]
    exact (inv.mem_visible valid window live found).mpr near

theorem Steady.exactDelta (inv : Steady cfg w) (valid : ValidConfig cfg) (clock : SessionId → UInt64) {session : SessionId} {anchor : ActorId}
    {cell : GridCell} {centre : Actor}
    (window : (ticking w ord).interest.sessionAnchors.lookup session = some (anchor, cell))
    (live : (ticking w ord).runtime.actors.lookup anchor = some centre) :
    ExactDelta (w.engine.tick ord clock) cfg.interestRadius centre (w.departed (.tick ord clock))
      (tickDelta (ticking w ord) ord clock session) := by
  have finished := finished_tick w.engine ord clock
  have sound := inv.toSound.applyEffects ord
  have changed := diffStates_changed ord (snapshot_distinct sound.consistent.toWired ord) (inv.newTick ord)
  have stays : ∀ id, ¬(id ∈ w.engine.runtime.actors ∧
      id ∉ (EngineCall.apply w.engine (.tick ord clock)).runtime.actors) := by
    intro id given
    obtain ⟨before, after⟩ := given
    exact after ((inv.mem_tick ord clock id).mpr before)
  refine ⟨finished.tickCount.symm, ?_, ?_, ?_, ?_⟩
  · intro s
    rw [finished.runtime]
    exact inv.mem_updates valid window live s
  · exact changed.1.sublist (List.filter_sublist.map _)
  · intro id
    rw [inv.mem_removed, mem_departed]
    exact ⟨.inl, fun either => either.resolve_right (stays id)⟩
  · intro s member
    obtain ⟨id, actor, found, rfl, -⟩ := (inv.mem_updates valid window live s).mp member
    rw [inv.mem_removed, (sound.consistent.keyed id actor found).2]
    rw [inv.lookup_applyEffects, Option.map_eq_some_iff] at found
    obtain ⟨old, before, -⟩ := found
    exact fun gone => (inv.gone id gone).2 (HashMap.mem_of_lookup before)

-- the anchor itself is an update, so the delta is not skipped
theorem Steady.worthy (inv : Steady cfg w) (valid : ValidConfig cfg) (clock : SessionId → UInt64) {session : SessionId}
    {anchor : ActorId} {cell : GridCell} {centre : Actor}
    (window : (ticking w ord).interest.sessionAnchors.lookup session = some (anchor, cell))
    (live : (ticking w ord).runtime.actors.lookup anchor = some centre) :
    ¬Worthless (tickDelta (ticking w ord) ord clock session) := by
  rintro ⟨none, -⟩
  have own : centre.state ∈ (tickDelta (ticking w ord) ord clock session).updates := by
    refine (inv.mem_updates valid window live _).mpr ⟨anchor, centre, live, rfl, ?_⟩
    simpa [GridCell.chebyshev] using valid.radiusNonneg
  rw [none] at own
  cases own

/-- In every run, a tick pushes an exact delta for each registered session whose anchor is live. -/
theorem exact_deltas (cfg : WorldConfig) (valid : ValidConfig cfg) (w : World)
    (reachable : WorldReachable cfg Playing w) (ord : Order) (clock : SessionId → UInt64) (session : SessionId)
    (anchor : ActorId) (cell : GridCell) (centre : Actor)
    (registered : (w.engine.tick ord clock).interest.sessionAnchors.lookup session = some (anchor, cell))
    (live : (w.engine.tick ord clock).runtime.actors.lookup anchor = some centre) :
    ∃ queue delta, (w.engine.applyEffects ord).sessionQueues.lookup session = some queue ∧
      (w.engine.tick ord clock).sessionQueues.lookup session = some (WorldEngine.pushDelta delta queue) ∧
      ExactDelta (w.engine.tick ord clock) cfg.interestRadius centre (w.departed (.tick ord clock)) delta := by
  have inv := steady_reachable valid reachable
  have finished := finished_tick w.engine ord clock
  rw [finished.interest] at registered
  rw [finished.runtime] at live
  have exact := inv.exactDelta valid clock registered live
  have member : session ∈ (w.engine.applyEffects ord).interest.sessionAnchors := HashMap.mem_of_lookup registered
  obtain ⟨queue, queued⟩ := HashMap.lookup_of_mem (((inv.toSound.applyEffects ord).queued session).mp member)
  have worthy := inv.worthy valid clock registered live
  obtain ⟨queues, pushed, lookup⟩ := pushDeltas_spec (w.engine.applyEffects ord) ord clock
  refine ⟨queue, _, queued, ?_, exact⟩
  rw [WorldEngine.tick, pushed]
  change queues.lookup session = _
  rw [lookup, if_pos member, queued, Option.map_some, offerDelta, if_neg worthy]

theorem validConfig_default : ValidConfig .default :=
  ⟨by norm_num [WorldConfig.default], by decide, by decide⟩

theorem playing_idle (w : World) {call : EngineCall} (spawns : call.spawned = none) (sends : call.sent = none)
    (withSession : ∀ id, call ≠ .despawnActor id) : Playing w call where
  distinct := distinct_of_no_spawn w spawns
  spawnInWorld spec spawned := by
    rw [spawns] at spawned
    cases spawned
  admissible msg sent := by
    rw [sends] at sent
    cases sent
  withSession := withSession

theorem playing_send (w : World) (handle : ActorHandle) {msg : ActorMessage} (admissible : Admissible msg) :
    Playing w (.send handle msg) where
  distinct := distinct_of_no_spawn w rfl
  spawnInWorld spec spawned := by cases spawned
  admissible other sent := by
    cases sent
    exact admissible
  withSession id same := by cases same

theorem exact_deltas_two_players :
    let one := EngineCall.spawnActorForSession .stored (villager 1 ⟨5, 5⟩) ⟨1⟩
    let two := EngineCall.spawnActorForSession .stored (villager 2 ⟨12, 5⟩) ⟨2⟩
    let w := (((((World.start .default).next one).next two).next (.tick .stored fun _ => 0)).next
      (.removeSession ⟨2⟩ true)).next (.send ⟨⟨1⟩, 0⟩ (.Move ⟨50, 5⟩))
    ∃ centre queue delta, (w.engine.tick .stored fun _ => 0).runtime.actors.lookup ⟨1⟩ = some centre ∧
      (w.engine.tick .stored fun _ => 0).sessionQueues.lookup ⟨1⟩ = some (WorldEngine.pushDelta delta queue) ∧
      ExactDelta (w.engine.tick .stored fun _ => 0) 5 centre (w.departed (.tick .stored fun _ => 0)) delta := by
  intro one two w
  have reachable : WorldReachable .default Playing w := by
    refine .step (.step (.step (.step (.step (.start rfl) ?_ rfl) ?_ rfl) ?_ rfl) ?_ rfl) ?_ rfl
    · exact ⟨by rintro _ ⟨⟩; exact List.not_mem_nil, by rintro _ ⟨⟩; decide, nofun, nofun⟩
    · exact ⟨by rintro _ ⟨⟩; decide, by rintro _ ⟨⟩; decide, nofun, nofun⟩
    · exact playing_idle _ rfl rfl fun id same => by cases same
    · exact playing_idle _ rfl rfl fun id same => by cases same
    · exact playing_send _ _ (by decide)
  have registered : (w.engine.tick .stored fun _ => 0).interest.sessionAnchors.lookup ⟨1⟩ = some (⟨1⟩, ⟨5, 0⟩) := by
    decide +kernel
  obtain ⟨centre, live⟩ : ∃ centre, (w.engine.tick .stored fun _ => 0).runtime.actors.lookup ⟨1⟩ = some centre :=
    Option.isSome_iff_exists.mp (by decide +kernel)
  obtain ⟨queue, delta, -, pushed, exact⟩ :=
    exact_deltas .default validConfig_default w reachable .stored (fun _ => 0) ⟨1⟩ ⟨1⟩ ⟨5, 0⟩ centre registered live
  exact ⟨centre, queue, delta, live, pushed, exact⟩

end LiveWorld.Proof.Engine

import LiveWorld.Proof.Engine.Effects

/-!
# The deltas of a tick

`pushDeltas_spec` says what the loop over the sessions does to their queues. The rest is about what
is in a delta: the diff of two snapshots and the cells of a window.
-/

namespace LiveWorld.Proof.Engine
open HashTable Machine Spec Proof.Runtime
variable {engine : WorldEngine} {ord : Order} {clock : SessionId → UInt64}

/-! ## The loop over the sessions -/

def deltaFor (engine : WorldEngine) (ord : Order) (clock : SessionId → UInt64) (changed : List ActorState)
    (newlyRemoved : List ActorId) (session : SessionId) : StateDelta where
  tick := engine.tickCount
  timestampMs := clock session
  updates := changed.filter fun s => decide (s.id ∈ engine.interest.visibleActors ord session engine.runtime.grid)
  removed := newlyRemoved

def Worthless (delta : StateDelta) : Prop := delta.updates = [] ∧ delta.removed = []

instance (delta : StateDelta) : Decidable (Worthless delta) := by unfold Worthless; infer_instance

def offerDelta (delta : StateDelta) (queue : SessionQueue) : SessionQueue :=
  if Worthless delta then queue else WorldEngine.pushDelta delta queue

theorem pushSession_spec (engine : WorldEngine) (ord : Order) (clock : SessionId → UInt64)
    (changed : List ActorState) (newlyRemoved : List ActorId) (session : SessionId) :
    ∃ queues, WorldEngine.pushSession ord clock changed newlyRemoved engine session =
        { engine with sessionQueues := queues } ∧
      ∀ other, queues.lookup other =
        if other = session
        then (engine.sessionQueues.lookup other).map (offerDelta (deltaFor engine ord clock changed newlyRemoved session))
        else engine.sessionQueues.lookup other := by
  unfold WorldEngine.pushSession
  simp only
  split_ifs with worthless
  · refine ⟨engine.sessionQueues, rfl, fun other => ?_⟩
    have nothing : Worthless (deltaFor engine ord clock changed newlyRemoved session) := by
      rw [Bool.and_eq_true, List.isEmpty_iff, List.isEmpty_iff] at worthless
      exact worthless
    split_ifs
    · cases engine.sessionQueues.lookup other <;> simp [offerDelta, nothing]
    · rfl
  · have something : ¬Worthless (deltaFor engine ord clock changed newlyRemoved session) := by
      intro nothing
      rw [Bool.and_eq_true, List.isEmpty_iff, List.isEmpty_iff] at worthless
      exact worthless nothing
    cases found : engine.sessionQueues.lookup session with
    | none =>
        refine ⟨engine.sessionQueues, rfl, fun other => ?_⟩
        split_ifs with same
        · rw [same, found]
          rfl
        · rfl
    | some queue =>
        refine ⟨_, rfl, fun other => ?_⟩
        rw [HashMap.lookup_insert_eq]
        split_ifs with same
        · rw [same, found, Option.map_some, offerDelta, if_neg something]
          rfl
        · rfl

theorem pushSessions_spec (engine : WorldEngine) (ord : Order) (clock : SessionId → UInt64)
    (changed : List ActorState) (newlyRemoved : List ActorId) (sessions : List SessionId) (distinct : sessions.Nodup) :
    ∃ queues, sessions.foldl (WorldEngine.pushSession ord clock changed newlyRemoved) engine =
        { engine with sessionQueues := queues } ∧
      ∀ session, queues.lookup session =
        if session ∈ sessions
        then (engine.sessionQueues.lookup session).map
          (offerDelta (deltaFor engine ord clock changed newlyRemoved session))
        else engine.sessionQueues.lookup session := by
  induction sessions generalizing engine with
  | nil => exact ⟨engine.sessionQueues, rfl, fun session => by simp⟩
  | cons first rest ih =>
      rw [List.nodup_cons] at distinct
      obtain ⟨queues, pushed, one⟩ := pushSession_spec engine ord clock changed newlyRemoved first
      obtain ⟨final, folded, others⟩ := ih { engine with sessionQueues := queues } distinct.2
      refine ⟨final, ?_, fun session => ?_⟩
      · rw [List.foldl_cons, pushed, folded]
      · rw [others]
        simp only [one, List.mem_cons]
        by_cases mine : session = first
        · subst mine
          rw [if_neg distinct.1, if_pos rfl, if_pos (.inl rfl)]
        · simp only [mine, if_false, false_or]
          rfl

def tickDiff (engine : WorldEngine) (ord : Order) : List ActorState × List ActorId :=
  diffStates ord engine.prevSnapshot (engine.runtime.snapshotAll ord)

def tickDelta (engine : WorldEngine) (ord : Order) (clock : SessionId → UInt64) (session : SessionId) : StateDelta :=
  deltaFor engine ord clock (tickDiff engine ord).1 ((tickDiff engine ord).2 ++ engine.removedThisTick) session

theorem mem_sessionIds {interest : InterestManager} {session : SessionId} :
    session ∈ (interest.sessions ord).map (fun entry => entry.1) ↔ session ∈ interest.sessionAnchors := by
  rw [List.mem_map, HashMap.mem_iff_lookup]
  constructor
  · rintro ⟨⟨s, anchor, cell⟩, member, rfl⟩
    exact ⟨_, mem_sessions.mp member⟩
  · intro given
    obtain ⟨⟨anchor, cell⟩, found⟩ := given
    exact ⟨_, mem_sessions.mpr found, rfl⟩

theorem sessionIds_nodup (interest : InterestManager) (ord : Order) :
    ((interest.sessions ord).map fun entry => entry.1).Nodup := by
  rw [InterestManager.sessions, List.map_map]
  exact visit_nodupKeys ord interest.sessionAnchors

theorem pushDeltas_spec (engine : WorldEngine) (ord : Order) (clock : SessionId → UInt64) :
    ∃ queues, engine.pushDeltas ord clock =
        { engine with
          removedThisTick := []
          sessionQueues := queues
          prevSnapshot := engine.runtime.snapshotAll ord } ∧
      ∀ session, queues.lookup session =
        if session ∈ engine.interest.sessionAnchors
        then (engine.sessionQueues.lookup session).map (offerDelta (tickDelta engine ord clock session))
        else engine.sessionQueues.lookup session := by
  obtain ⟨queues, pushed, lookup⟩ := pushSessions_spec { engine with removedThisTick := [] } ord clock
    (tickDiff engine ord).1 ((tickDiff engine ord).2 ++ engine.removedThisTick) _
    (sessionIds_nodup engine.interest ord)
  refine ⟨queues, ?_, fun session => ?_⟩
  · unfold WorldEngine.pushDeltas
    simp only [tickDiff] at pushed
    simp only [pushed]
  · rw [lookup]
    simp only [mem_sessionIds]
    rfl

/-! ## The diff -/

theorem snapshot_distinct {rt : ActorRuntime} (inv : Wired rt) (ord : Order) :
    ((rt.snapshotAll ord).map ActorState.id).Nodup := by
  have keys : (rt.snapshotAll ord).map ActorState.id = (ord.visit rt.actors.entries).keys := by
    rw [ActorRuntime.snapshotAll, HashMap.values, List.map_map, List.map_map, List.keys]
    apply List.map_congr_left
    intro given member
    obtain ⟨id, actor⟩ := given
    exact (inv.keyed id actor (HashMap.mem_entries_iff.mp (ord.mem_visit.mp member))).2
  rw [keys]
  exact visit_nodupKeys ord rt.actors

theorem mem_snapshot {rt : ActorRuntime} {s : ActorState} :
    s ∈ rt.snapshotAll ord ↔ ∃ id actor, rt.actors.lookup id = some actor ∧ actor.state = s := by
  rw [ActorRuntime.snapshotAll, List.mem_map]
  constructor
  · rintro ⟨actor, stored, rfl⟩
    obtain ⟨id, found⟩ := HashMap.mem_values.mp stored
    exact ⟨id, actor, found, rfl⟩
  · rintro ⟨id, actor, found, rfl⟩
    exact ⟨actor, HashMap.mem_values.mpr ⟨id, found⟩, rfl⟩

theorem changedState_of_tick {prev curr : ActorState} (ticked : prev.tick ≠ curr.tick) :
    changedState prev curr = true := by
  simp [changedState, ticked]

theorem tick_ne_succ (n : UInt64) : n ≠ n + 1 := by
  intro same
  have := congrArg UInt64.toNat same
  rw [UInt64.toNat_add] at this
  have bound := UInt64.toNat_lt n
  simp only [UInt64.toNat_one] at this
  omega

-- when every tick number is new, the diff is the whole snapshot
theorem diffStates_changed (ord : Order) {previous current : List ActorState} (distinct : (current.map ActorState.id).Nodup)
    (newTick : ∀ prev ∈ previous, ∀ curr ∈ current, prev.tick ≠ curr.tick) :
    ((diffStates ord previous current).1.map ActorState.id).Nodup ∧
      ∀ s, s ∈ (diffStates ord previous current).1 ↔ s ∈ current := by
  have all : (diffStates ord previous current).1 =
      (ord.visit (HashMap.collect ActorState.id current).entries).map Sigma.snd := by
    rw [← List.filterMap_eq_map]
    apply List.filterMap_congr
    intro given member
    obtain ⟨id, curr⟩ := given
    have here := HashMap.lookup_collect_some (HashMap.mem_entries_iff.mp (ord.mem_visit.mp member))
    cases found : (HashMap.collect ActorState.id previous).lookup id with
    | none => rfl
    | some prev =>
        have before := HashMap.lookup_collect_some found
        exact if_pos (changedState_of_tick (newTick prev before.1 curr here.1))
  have keys : (diffStates ord previous current).1.map ActorState.id =
      (ord.visit (HashMap.collect ActorState.id current).entries).keys := by
    rw [all, List.map_map, List.keys]
    apply List.map_congr_left
    intro given member
    obtain ⟨id, curr⟩ := given
    exact (HashMap.lookup_collect_some (HashMap.mem_entries_iff.mp (ord.mem_visit.mp member))).2
  constructor
  · rw [keys]
    exact visit_nodupKeys ord _
  · intro s
    rw [all]
    change s ∈ HashMap.values ord _ ↔ _
    rw [HashMap.mem_values]
    constructor
    · intro given
      obtain ⟨id, found⟩ := given
      exact (HashMap.lookup_collect_some found).1
    · intro member
      exact ⟨s.id, HashMap.lookup_collect_of_mem distinct member⟩

theorem diffStates_removed {previous current : List ActorState} {id : ActorId} :
    id ∈ (diffStates ord previous current).2 ↔ (∃ s ∈ previous, s.id = id) ∧ ¬∃ s ∈ current, s.id = id := by
  simp only [diffStates, List.mem_filter, Order.mem_visit, decide_eq_true_eq]
  rw [← HashMap.mem_collect, ← HashMap.mem_collect]
  rfl

/-! ## The cells of a window -/

def InRange (cell : GridCell) : Prop := (0 ≤ cell.x ∧ cell.x ≤ maxI32) ∧ 0 ≤ cell.y ∧ cell.y ≤ maxI32

theorem inRange_toGridCell {pos : Position} {cellSize : Rat} (inWorld : pos.InWorld) (sized : 0 < cellSize) :
    InRange (pos.toGridCell cellSize) := by
  have coordinate : ∀ x : Rat, 0 ≤ x → 0 ≤ saturateI32 (x / cellSize).floor ∧
      saturateI32 (x / cellSize).floor ≤ maxI32 := by
    intro x nonneg
    have floor : 0 ≤ (x / cellSize).floor := Rat.le_floor_iff.mpr (by simpa using div_nonneg nonneg sized.le)
    unfold saturateI32 minI32 maxI32
    omega
  exact ⟨coordinate pos.x inWorld.1.1, coordinate pos.y inWorld.2.1⟩

theorem mem_queryRadius {grid : SpatialGrid} {center : GridCell} {radius : Int} {id : ActorId}
    (filed : ∀ cell id, Filed grid cell id → InRange cell) (centre : InRange center) (least : 0 ≤ radius)
    (most : radius ≤ maxI32) :
    id ∈ grid.queryRadius ord center radius ↔ ∃ cell, Filed grid cell id ∧ cell.chebyshev center ≤ radius := by
  have negated : wrapI32 (-radius) = -radius := by
    apply wrapI32_of_range
    · unfold minI32 maxI32 at *
      omega
    · omega
  have slot : ∀ cell, id ∈ grid.idsIn ord cell ↔ Filed grid cell id := by
    intro cell
    unfold SpatialGrid.idsIn Filed
    cases grid.cells.lookup cell with
    | none => simp
    | some set => simp [AList.mem_keys]
  simp only [SpatialGrid.queryRadius, List.mem_flatMap, mem_rangeInclusive, negated, slot]
  constructor
  · intro given
    obtain ⟨dx, lowX, dy, lowY, here⟩ := given
    refine ⟨_, here, ?_⟩
    have range := filed _ id here
    simp only [InRange] at range centre
    have atX := wrapI32_of_nonneg centre.1.1 centre.1.2 (by omega) (by omega : dx ≤ maxI32) range.1.1
    have atY := wrapI32_of_nonneg centre.2.1 centre.2.2 (by omega) (by omega : dy ≤ maxI32) range.2.1
    simp only [GridCell.chebyshev, atX, atY, add_sub_cancel_left, max_le_iff, abs_le]
    omega
  · intro given
    obtain ⟨cell, here, near⟩ := given
    have range := filed cell id here
    simp only [GridCell.chebyshev, max_le_iff, abs_le] at near
    refine ⟨cell.x - center.x, by omega, cell.y - center.y, by omega, ?_⟩
    have wrapped : ∀ z : Int, 0 ≤ z → z ≤ maxI32 → wrapI32 z = z := by
      intro z lower upper
      exact wrapI32_of_range (le_trans (by unfold minI32; omega) lower) upper
    rw [add_sub_cancel, add_sub_cancel, wrapped _ range.1.1 range.1.2, wrapped _ range.2.1 range.2.2]
    exact here

end LiveWorld.Proof.Engine

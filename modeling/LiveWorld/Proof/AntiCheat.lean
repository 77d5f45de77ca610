import LiveWorld.Spec.GlobalAgents

namespace LiveWorld.Proof.AntiCheat
open HashTable Spec AntiCheatAgent
variable {maxSpeed : Rat} {last : HashMap ActorId Position}

/-- What the agent sends about an actor that it has last seen according to `last`. -/
def violation (maxSpeed : Rat) (last : HashMap ActorId Position) (state : ActorState) : Option WorldDirective :=
  (last.lookup state.id).bind fun before =>
    let dist := distance before state.position
    if dist > Binary32.nearest maxSpeed then some (.FlagActor state.id (reason dist)) else none

theorem checkActor_eq (violations : List WorldDirective) (state : ActorState) :
    checkActor maxSpeed (violations, last) state =
      (violations ++ (violation maxSpeed last state).toList, last.insert state.id state.position) := by
  rw [checkActor, violation]
  cases last.lookup state.id with
  | none => simp
  | some before =>
      simp only [Option.bind_some]
      split_ifs <;> simp

theorem violation_insert {state other : ActorState} (differ : state.id ≠ other.id) (pos : Position) :
    violation maxSpeed (last.insert other.id pos) state = violation maxSpeed last state := by
  rw [violation, violation, HashMap.lookup_insert_eq, if_neg differ]

-- no actor comes twice, so every one is checked against what was known before the sweep
theorem checkAll_fst {states : List ActorState} (distinct : (states.map ActorState.id).Nodup)
    (violations : List WorldDirective) (last : HashMap ActorId Position) :
    (states.foldl (checkActor maxSpeed) (violations, last)).1 =
      violations ++ states.filterMap (violation maxSpeed last) := by
  induction states generalizing violations last with
  | nil => simp
  | cons first rest ih =>
      rw [List.map_cons, List.nodup_cons] at distinct
      have same : rest.filterMap (violation maxSpeed (last.insert first.id first.position)) =
          rest.filterMap (violation maxSpeed last) := by
        apply List.filterMap_congr
        intro state member
        apply violation_insert
        intro twice
        exact distinct.1 (twice ▸ List.mem_map_of_mem member)
      rw [List.foldl_cons, checkActor_eq, ih distinct.2, same, List.append_assoc, List.filterMap_cons]
      cases violation maxSpeed last first <;> rfl

theorem checkAll_snd (states : List ActorState) (violations : List WorldDirective) (last : HashMap ActorId Position)
    (id : ActorId) :
    (states.foldl (checkActor maxSpeed) (violations, last)).2.lookup id =
      (((states.reverse.find? fun s => s.id = id).map ActorState.position).or (last.lookup id)) := by
  induction states generalizing violations last with
  | nil => simp
  | cons first rest ih =>
      rw [List.foldl_cons, checkActor_eq, ih, HashMap.lookup_insert_eq, List.reverse_cons, List.find?_append]
      cases List.find? (fun s => decide (s.id = id)) rest.reverse with
      | some state => simp
      | none =>
          by_cases mine : id = first.id
          · simp [mine]
          · simp [mine, show ¬first.id = id from fun same => mine same.symm]

theorem find_values (ord : Order) (snapshot : SharedSnapshot) (id : ActorId) :
    ((snapshot.values ord).reverse.find? fun s => s.id = id) = snapshot.lookup id := by
  cases found : (snapshot.values ord).reverse.find? fun s => s.id = id with
  | some state =>
      have member := List.mem_reverse.mp (List.mem_of_find?_eq_some found)
      have same : state.id = id := by simpa using List.find?_some found
      rw [← same]
      exact (KeyedMap.mem_values.mp member).symm
  | none =>
      symm
      rw [← KeyedMap.not_mem_iff, KeyedMap.mem_iff]
      rintro ⟨state, stored⟩
      have same : state.id = id := snapshot.keyed id state stored
      have member : state ∈ snapshot.values ord := KeyedMap.mem_values.mpr (KeyedMap.lookup_key stored)
      have missing := List.find?_eq_none.mp found state (List.mem_reverse.mpr member)
      exact missing (by simpa using same)

theorem lastSeen_concat (id : ActorId) (earlier : List Sweep) (sweep : Sweep) :
    lastSeen id (earlier ++ [sweep]) = ((sweep.2.lookup id).map ActorState.position).or (lastSeen id earlier) := by
  rw [lastSeen, List.foldl_append]
  rfl

theorem swept_concat (maxSpeed : Rat) (earlier : List Sweep) (sweep : Sweep) :
    swept maxSpeed (earlier ++ [sweep]) = (swept maxSpeed earlier).wake sweep.1 sweep.2 := by
  rw [swept, List.foldl_append]
  rfl

theorem swept_maxSpeed (maxSpeed : Rat) (sweeps : List Sweep) : (swept maxSpeed sweeps).maxSpeedPerTick = maxSpeed := by
  induction sweeps using List.reverseRecOn with
  | nil => rfl
  | append_singleton earlier sweep ih =>
      rw [swept_concat]
      exact ih

theorem lookup_swept (maxSpeed : Rat) (sweeps : List Sweep) (id : ActorId) :
    (swept maxSpeed sweeps).lastPositions.lookup id = lastSeen id sweeps := by
  induction sweeps using List.reverseRecOn with
  | nil => rfl
  | append_singleton earlier sweep ih =>
      rw [swept_concat, lastSeen_concat, ← ih, ← find_values sweep.1 sweep.2 id]
      exact checkAll_snd _ _ _ id

theorem pending_wake (agent : AntiCheatAgent) (ord : Order) (snapshot : SharedSnapshot) :
    (agent.wake ord snapshot).pending =
      (snapshot.values ord).filterMap (violation agent.maxSpeedPerTick agent.lastPositions) :=
  checkAll_fst (snapshot.nodup_values ord) [] _

theorem pending_swept (maxSpeed : Rat) (earlier : List Sweep) (sweep : Sweep) :
    (swept maxSpeed (earlier ++ [sweep])).pending =
      (sweep.2.values sweep.1).filterMap (violation maxSpeed (swept maxSpeed earlier).lastPositions) := by
  rw [swept_concat, pending_wake, swept_maxSpeed]

theorem violation_eq_some {state : ActorState} {directive : WorldDirective} :
    violation maxSpeed last state = some directive ↔ ∃ before, last.lookup state.id = some before ∧
      Binary32.nearest maxSpeed < distance before state.position ∧
      directive = .FlagActor state.id (reason (distance before state.position)) := by
  rw [violation, Option.bind_eq_some_iff]
  constructor
  · rintro ⟨before, seen, flagged⟩
    simp only [Option.ite_none_right_eq_some, Option.some_inj] at flagged
    exact ⟨before, seen, flagged.1, flagged.2.symm⟩
  · rintro ⟨before, seen, far, rfl⟩
    exact ⟨before, seen, if_pos far⟩

/-- A flag names the actor it is about. -/
theorem violation_inj {one other : ActorState} {directive : WorldDirective}
    (first : violation maxSpeed last one = some directive) (second : violation maxSpeed last other = some directive) :
    one.id = other.id := by
  obtain ⟨_, _, _, rfl⟩ := violation_eq_some.mp first
  obtain ⟨_, _, _, same⟩ := violation_eq_some.mp second
  injection same

theorem abs_roundHalfEven_sub_le (q : Rat) : |(roundHalfEven q : Rat) - q| ≤ 1 / 2 := by
  have lower : (q.floor : Rat) ≤ q := Int.floor_le q
  have upper : q < q.floor + 1 := Int.lt_floor_add_one q
  rw [roundHalfEven, abs_le]
  split_ifs with near
  · have half : q - q.floor ≤ 1 / 2 := near.elim le_of_lt fun tie => tie.1.le
    constructor <;> linarith
  · have half : 1 / 2 ≤ q - q.floor := le_of_not_gt fun less => near (.inl less)
    push_cast
    constructor <;> linarith

/-- A distance is shown to the nearest tenth. -/
theorem shown_distance {dist : Float32.Model} {d : Rat} (finite : Binary32.value dist = .finite d) :
    ∃ tenths : Int, |tenths / 10 - d| ≤ 1 / 20 ∧
      formatTenths dist = toString (tenths / 10) ++ "." ++ toString (tenths % 10) := by
  refine ⟨roundHalfEven (10 * d), ?_, ?_⟩
  · have near := abs_roundHalfEven_sub_le (10 * d)
    rw [abs_le] at near ⊢
    constructor <;> linarith
  · rw [formatTenths, finite]

theorem mem_pending_swept (maxSpeed : Rat) (earlier : List Sweep) (sweep : Sweep) (directive : WorldDirective) :
    directive ∈ (swept maxSpeed (earlier ++ [sweep])).pending ↔ ∃ id state before,
      sweep.2.lookup id = some state ∧ lastSeen id earlier = some before ∧
      Binary32.nearest maxSpeed < distance before state.position ∧
      directive = .FlagActor id (reason (distance before state.position)) := by
  rw [pending_swept, List.mem_filterMap]
  constructor
  · rintro ⟨state, member, flagged⟩
    obtain ⟨before, seen, far, rfl⟩ := violation_eq_some.mp flagged
    rw [lookup_swept] at seen
    exact ⟨state.id, state, before, KeyedMap.mem_values.mp member, seen, far, rfl⟩
  · rintro ⟨id, state, before, stored, seen, far, rfl⟩
    have same : state.id = id := sweep.2.keyed id state stored
    subst same
    refine ⟨state, KeyedMap.mem_values.mpr stored, violation_eq_some.mpr ⟨before, ?_, far, rfl⟩⟩
    rw [lookup_swept]
    exact seen

theorem nodup_pending_swept (maxSpeed : Rat) (earlier : List Sweep) (sweep : Sweep) :
    (swept maxSpeed (earlier ++ [sweep])).pending.Nodup := by
  have distinct := sweep.2.nodup_values sweep.1
  rw [List.Nodup, List.pairwise_map] at distinct
  rw [pending_swept, List.Nodup, List.pairwise_filterMap]
  apply distinct.imp
  rintro one other differ directive first _ second rfl
  exact differ (violation_inj first second)

theorem flags_speeders (maxSpeed : Rat) (earlier : List Sweep) (sweep : Sweep) :
    FlagsFast maxSpeed earlier sweep (swept maxSpeed (earlier ++ [sweep])) where
  flagged := mem_pending_swept maxSpeed earlier sweep
  once := nodup_pending_swept maxSpeed earlier sweep
  shown _ _ := shown_distance
  remembered := lookup_swept maxSpeed (earlier ++ [sweep])

end LiveWorld.Proof.AntiCheat

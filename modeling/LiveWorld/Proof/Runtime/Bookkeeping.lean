import LiveWorld.Proof.Runtime.Tick

/-!
# The calls of the runtime keep its books

Each call preserves `Consistent`. For `tick` this comes with the description of the state it leaves:
every actor that stays alive is `ticked`, and the others are gone.
-/

namespace LiveWorld.Proof.Runtime
open HashTable Spec
variable {rt : ActorRuntime} {id : ActorId}

theorem consistent_new (cfg : WorldConfig) : Consistent (ActorRuntime.new cfg) := by
  have nobody : ∀ id actor, (ActorRuntime.new cfg).actors.lookup id ≠ some actor := by
    intro id actor
    rw [ActorRuntime.new, AList.lookup_empty]
    exact (Option.some_ne_none _).symm
  have noCell : ∀ cell set, (ActorRuntime.new cfg).grid.cells.lookup cell ≠ some set := by
    intro cell set
    rw [ActorRuntime.new, SpatialGrid.new, AList.lookup_empty]
    exact (Option.some_ne_none _).symm
  constructor
  · constructor
    · intro id
      exact Iff.rfl
    · exact fun id actor _ found => absurd found (nobody id actor)
    · exact fun id actor found => absurd found (nobody id actor)
    · exact fun cell _ ⟨set, found, _⟩ => absurd found (noCell cell set)
    · exact fun cell set found => absurd found (noCell cell set)
    · intro ord
      rw [totalActors_eq]
      rfl
    · rfl
  · exact fun id actor found => absurd found (nobody id actor)
  · exact fun id actor found => absurd found (nobody id actor)
  · exact fun id _ actor _ found => absurd found (nobody id actor)

/-! ## Spawning -/

def newborn (rt : ActorRuntime) (spec : ActorSpec) : Actor :=
  (Actor.spawn rt.inboxes spec).1.1.activate (spec.position.toGridCell rt.grid.cellSize)

theorem spawnActor_lookup (rt : ActorRuntime) (spec : ActorSpec) (id : ActorId) :
    (rt.spawnActor spec).2.actors.lookup id =
      if id = spec.id then some (newborn rt spec) else rt.actors.lookup id :=
  HashMap.lookup_insert_eq _ _ _ _

theorem mem_spawnActor (rt : ActorRuntime) (spec : ActorSpec) (id : ActorId) :
    id ∈ (rt.spawnActor spec).2.actors ↔ id = spec.id ∨ id ∈ rt.actors :=
  AList.mem_insert rt.actors

-- a live actor is the newborn or an old one under another id
theorem spawnActor_either {spec : ActorSpec} {actor : Actor}
    (found : (rt.spawnActor spec).2.actors.lookup id = some actor) :
    (id = spec.id ∧ actor = newborn rt spec) ∨ (id ≠ spec.id ∧ rt.actors.lookup id = some actor) := by
  rw [spawnActor_lookup] at found
  split_ifs at found with same
  · exact .inl ⟨same, (Option.some.inj found).symm⟩
  · exact .inr ⟨same, found⟩

theorem Wired.spawn (inv : Wired rt) (spec : ActorSpec) : Wired (rt.spawnActor spec).2 := by
  refine ⟨?_, ?_, ?_, ?_, ?_⟩
  · intro id
    change id ∈ rt.actors.insert _ _ ↔ id ∈ rt.handles.insert _ _
    rw [AList.mem_insert, AList.mem_insert, inv.sameKeys]
  · intro id actor handle found held
    change (rt.handles.insert _ _).lookup id = _ at held
    rw [HashMap.lookup_insert_eq] at held
    rcases spawnActor_either found with ⟨same, rfl⟩ | ⟨differ, old⟩
    · rw [if_pos same] at held
      cases held
      rfl
    · rw [if_neg differ] at held
      exact inv.feeds id actor handle old held
  · intro id actor found
    rcases spawnActor_either found with ⟨same, rfl⟩ | ⟨-, old⟩
    · exact ⟨same.symm, same.symm⟩
    · exact inv.keyed id actor old
  · intro id actor found
    rcases spawnActor_either found with ⟨-, rfl⟩ | ⟨-, old⟩
    · exact Nat.lt_succ_self _
    · exact Nat.lt_succ_of_lt (inv.allocated id actor old)
  · intro i j a b foundA foundB same
    rcases spawnActor_either foundA with ⟨hi, rfl⟩ | ⟨-, oldA⟩ <;>
      rcases spawnActor_either foundB with ⟨hj, rfl⟩ | ⟨-, oldB⟩
    · exact hi.trans hj.symm
    · exact absurd same (Nat.ne_of_gt (inv.allocated j b oldB))
    · exact absurd same (Nat.ne_of_lt (inv.allocated i a oldA))
    · exact inv.ownInbox i j a b oldA oldB same

theorem Consistent.spawn (inv : Consistent rt) {spec : ActorSpec} (fresh : spec.id ∉ rt.actors) :
    Consistent (rt.spawnActor spec).2 := by
  have unfiled : ∀ cell, ¬Filed rt.grid cell spec.id := fun cell filed => fresh (inv.onlyLive cell _ filed)
  have wired := inv.toWired.spawn spec
  refine ⟨⟨wired.sameKeys, wired.feeds, ?_, ?_, ?_, ?_, rfl⟩, wired.keyed, wired.allocated, wired.ownInbox⟩
  · intro id actor found cell
    change Filed (rt.grid.file _ _) _ _ ↔ _
    rw [filed_file]
    rcases spawnActor_either found with ⟨rfl, rfl⟩ | ⟨differ, old⟩
    · constructor
      · rintro (⟨here, -⟩ | filed)
        · exact here
        · exact absurd filed (unfiled cell)
      · exact fun here => .inl ⟨here, rfl⟩
    · rw [← inv.filed id actor old cell]
      exact ⟨fun h => h.elim (fun mine => absurd mine.2 differ) fun filed => filed, .inr⟩
  · intro cell id filed
    change Filed (rt.grid.file _ _) _ _ at filed
    change id ∈ rt.actors.insert _ _
    rw [AList.mem_insert]
    rcases filed_file.mp filed with ⟨-, same⟩ | old
    · exact .inl same
    · exact .inr (inv.onlyLive cell id old)
  · exact occupied_file inv.occupied
  · intro ord
    rw [totalActors_eq]
    change population (rt.grid.file _ _) = HashMap.size (rt.actors.insert _ _)
    rw [population_file (unfiled _), HashMap.size_insert_of_notMem fresh, ← totalActors_eq _ ord, inv.total]
    rfl

/-! ## Despawning -/

theorem despawnActor_lookup (rt : ActorRuntime) (id other : ActorId) :
    (rt.despawnActor id).2.actors.lookup other = if other = id then none else rt.actors.lookup other := by
  unfold ActorRuntime.despawnActor
  cases found : rt.actors.lookup id with
  | some actor => exact HashMap.lookup_erase_eq _ _ _
  | none =>
      split_ifs with same
      · rw [same]
        exact found
      · rfl

theorem despawnActor_inboxes (rt : ActorRuntime) (id : ActorId) :
    (rt.despawnActor id).2.inboxes = rt.inboxes := by
  unfold ActorRuntime.despawnActor
  cases rt.actors.lookup id <;> rfl

theorem despawnActor_cellSize (rt : ActorRuntime) (id : ActorId) :
    (rt.despawnActor id).2.grid.cellSize = rt.grid.cellSize := by
  unfold ActorRuntime.despawnActor
  cases rt.actors.lookup id with
  | some actor => exact cellSize_remove
  | none => rfl

theorem despawnActor_handles (inv : Wired rt) (id other : ActorId) :
    (rt.despawnActor id).2.handles.lookup other = if other = id then none else rt.handles.lookup other := by
  unfold ActorRuntime.despawnActor
  cases found : rt.actors.lookup id with
  | some actor => exact HashMap.lookup_erase_eq _ _ _
  | none =>
      split_ifs with same
      · rw [same]
        have absent := AList.lookup_eq_none.mp found
        rw [inv.sameKeys] at absent
        exact AList.lookup_eq_none.mpr absent
      · rfl

theorem Wired.despawn (inv : Wired rt) (id : ActorId) : Wired (rt.despawnActor id).2 := by
  have old : ∀ other actor, (rt.despawnActor id).2.actors.lookup other = some actor →
      rt.actors.lookup other = some actor := by
    intro other actor found
    rw [despawnActor_lookup] at found
    split_ifs at found
    exact found
  refine ⟨?_, ?_, ?_, ?_, ?_⟩
  · intro other
    rw [← AList.lookup_isSome, ← AList.lookup_isSome, despawnActor_lookup, despawnActor_handles inv]
    split_ifs
    · rfl
    · rw [AList.lookup_isSome, AList.lookup_isSome]
      exact inv.sameKeys other
  · intro other actor handle there held
    rw [despawnActor_handles inv] at held
    split_ifs at held
    exact inv.feeds other actor handle (old other actor there) held
  · exact fun other actor there => inv.keyed other actor (old other actor there)
  · rw [despawnActor_inboxes]
    exact fun other actor there => inv.allocated other actor (old other actor there)
  · exact fun i j a b there there' => inv.ownInbox i j a b (old i a there) (old j b there')

theorem Consistent.despawn (inv : Consistent rt) (id : ActorId) : Consistent (rt.despawnActor id).2 := by
  have wired := inv.toWired.despawn id
  cases found : rt.actors.lookup id with
  | none =>
      have unchanged : (rt.despawnActor id).2 = rt := by simp only [ActorRuntime.despawnActor, found]
      rw [unchanged]
      exact inv
  | some actor =>
      have equation : (rt.despawnActor id).2 =
          { rt with
            actors := rt.actors.erase id
            grid := (rt.grid.remove id actor.state.cell).2
            handles := rt.handles.erase id
            stats := { rt.stats with totalActors := HashMap.size (rt.actors.erase id) } } := by
        simp only [ActorRuntime.despawnActor, found]
      have member : id ∈ rt.actors := HashMap.mem_of_lookup found
      rw [equation] at wired ⊢
      refine ⟨⟨wired.sameKeys, wired.feeds, ?_, ?_, ?_, ?_, rfl⟩, wired.keyed, wired.allocated, wired.ownInbox⟩
      · intro other a there cell
        rw [HashMap.lookup_erase_eq] at there
        split_ifs at there with differ
        rw [filed_remove, inv.filed other a there]
        exact ⟨fun both => both.1, fun here => ⟨here, fun both => differ both.2⟩⟩
      · intro cell other filed
        obtain ⟨before, notMine⟩ := filed_remove.mp filed
        refine AList.mem_erase.mpr ⟨?_, inv.onlyLive cell other before⟩
        intro equal
        subst equal
        exact notMine ⟨(inv.filed other actor found cell).mp before, rfl⟩
      · exact occupied_remove inv.occupied
      · intro ord
        have fewer := population_remove ((inv.filed id actor found _).mpr rfl)
        have count := HashMap.size_erase_of_mem member
        have before := inv.total ord
        rw [totalActors_eq] at before ⊢
        simp only [ActorRuntime.actorCount] at before ⊢
        omega

/-! ## Sending -/

theorem Wired.setInboxes (inv : Wired rt) {inboxes : Inboxes} (next : inboxes.next = rt.inboxes.next) :
    Wired { rt with inboxes } :=
  ⟨inv.sameKeys, inv.feeds, inv.keyed, fun id actor found => next ▸ inv.allocated id actor found, inv.ownInbox⟩

theorem Consistent.setInboxes (inv : Consistent rt) {inboxes : Inboxes} (next : inboxes.next = rt.inboxes.next) :
    Consistent { rt with inboxes } :=
  ⟨⟨inv.sameKeys, inv.feeds, inv.filed, inv.onlyLive, inv.occupied, inv.total, inv.counted⟩, inv.keyed,
    fun id actor found => next ▸ inv.allocated id actor found, inv.ownInbox⟩

theorem send_next (handle : ActorHandle) (inboxes : Inboxes) (msg : ActorMessage) :
    (handle.send inboxes msg).2.next = inboxes.next := by
  unfold ActorHandle.send
  simp only
  split_ifs <;> rfl

theorem Consistent.send (inv : Consistent rt) (handle : ActorHandle) (msg : ActorMessage) :
    Consistent (rt.send handle msg).2 :=
  inv.setInboxes (send_next handle rt.inboxes msg)

/-! ## Ticking -/

def despawnAll (rt : ActorRuntime) (ids : List ActorId) : ActorRuntime :=
  ids.foldl (fun rt id => (rt.despawnActor id).2) rt

theorem despawnAll_frame (ids : List ActorId) (rt : ActorRuntime) :
    (despawnAll rt ids).inboxes = rt.inboxes ∧ (despawnAll rt ids).grid.cellSize = rt.grid.cellSize ∧
      ∀ id, (despawnAll rt ids).actors.lookup id = if id ∈ ids then none else rt.actors.lookup id := by
  induction ids generalizing rt with
  | nil => exact ⟨rfl, rfl, fun id => (if_neg List.not_mem_nil).symm⟩
  | cons first rest ih =>
      obtain ⟨inboxes, cellSize, lookup⟩ := ih (rt.despawnActor first).2
      refine ⟨inboxes.trans (despawnActor_inboxes rt first), cellSize.trans (despawnActor_cellSize rt first),
        fun id => ?_⟩
      refine (lookup id).trans ?_
      rw [despawnActor_lookup]
      by_cases later : id ∈ rest <;> by_cases now : id = first <;> simp [later, now]

theorem Wired.despawnAll (inv : Wired rt) (ids : List ActorId) : Wired (despawnAll rt ids) := by
  induction ids generalizing rt with
  | nil => exact inv
  | cons first rest ih => exact ih (inv.despawn first)

theorem Consistent.despawnAll (inv : Consistent rt) (ids : List ActorId) : Consistent (despawnAll rt ids) := by
  induction ids generalizing rt with
  | nil => exact inv
  | cons first rest ih => exact ih (inv.despawn first)

structure Ticked (rt : ActorRuntime) (ord : Order) (tickNum : UInt64) : Prop where
  wired : Wired (rt.tick ord tickNum).2
  cellSize : (rt.tick ord tickNum).2.grid.cellSize = rt.grid.cellSize
  effects : (rt.tick ord tickNum).1 =
    (ord.visit rt.actors.entries).flatMap fun entry => effectsOf rt tickNum entry.2
  lookup : ∀ id, (rt.tick ord tickNum).2.actors.lookup id =
    ((rt.actors.lookup id).map (ticked rt tickNum)).filter Actor.isAlive
  left : ∀ id actor, rt.actors.lookup id = some actor →
    (rt.tick ord tickNum).2.inboxes.pending actor.inbox = leftOf rt tickNum actor
  kept : ∀ ref, ∀ msg ∈ (rt.tick ord tickNum).2.inboxes.pending ref, msg ∈ rt.inboxes.pending ref
  next : (rt.tick ord tickNum).2.inboxes.next = rt.inboxes.next

theorem visit_nodupKeys {K V : Type} (ord : Order) (m : HashMap K V) : (ord.visit m.entries).NodupKeys :=
  (List.perm_nodupKeys (ord.perm _)).mpr m.nodupKeys

theorem visits_all (rt : ActorRuntime) (ord : Order) : Visits rt (ord.visit rt.actors.entries) :=
  ⟨visit_nodupKeys ord rt.actors, fun _ member => HashMap.mem_entries_iff.mp (ord.mem_visit.mp member)⟩

theorem tick_spec (inv : Wired rt) (ord : Order) (tickNum : UInt64) : Ticked rt ord tickNum := by
  have stored := (visits_all rt ord).stored
  have loop := rounds tickNum ⟨rt, [], []⟩ _ inv (visits_all rt ord)
  obtain ⟨inboxes, cellSize, lookup⟩ := despawnAll_frame
    ((ord.visit rt.actors.entries).foldl (ActorRuntime.tickActor tickNum) ⟨rt, [], []⟩).toDespawn
    ((ord.visit rt.actors.entries).foldl (ActorRuntime.tickActor tickNum) ⟨rt, [], []⟩).runtime
  refine ⟨?_, cellSize.trans loop.cellSize, ?_, ?_, ?_, ?_, ?_⟩
  · have wired := loop.wired.despawnAll
      ((ord.visit rt.actors.entries).foldl (ActorRuntime.tickActor tickNum) ⟨rt, [], []⟩).toDespawn
    exact ⟨wired.sameKeys, wired.feeds, wired.keyed, wired.allocated, wired.ownInbox⟩
  · exact loop.effects.trans (List.nil_append _)
  · intro id
    refine (lookup id).trans ?_
    rw [loop.despawn, loop.lookup, List.nil_append]
    cases found : rt.actors.lookup id with
    | none => simp
    | some actor =>
        have member : (⟨id, actor⟩ : (_ : ActorId) × Actor) ∈ ord.visit rt.actors.entries :=
          ord.mem_visit.mpr (HashMap.mem_entries_iff.mpr found)
        have dies : id ∈ ((ord.visit rt.actors.entries).filter fun entry =>
              !(ticked rt tickNum entry.2).isAlive).map Sigma.fst ↔ (ticked rt tickNum actor).isAlive = false := by
          rw [List.mem_map]
          constructor
          · rintro ⟨entry, kept, rfl⟩
            obtain ⟨visited, dead⟩ := List.mem_filter.mp kept
            obtain rfl : entry.2 = actor := Option.some.inj ((stored entry visited).symm.trans found)
            simpa using dead
          · intro dead
            exact ⟨⟨id, actor⟩, List.mem_filter.mpr ⟨member, by simp [dead]⟩, rfl⟩
        rw [if_pos (List.mem_keys_of_mem member)]
        simp only [Option.map_some]
        by_cases alive : (ticked rt tickNum actor).isAlive = true
        · rw [if_neg (by rw [dies, alive]; simp), Option.filter_some_pos alive]
        · rw [Bool.not_eq_true] at alive
          rw [if_pos (dies.mpr alive), Option.filter_some_neg (by simp [alive])]
  · intro id actor found
    have member : (⟨id, actor⟩ : (_ : ActorId) × Actor) ∈ ord.visit rt.actors.entries :=
      ord.mem_visit.mpr (HashMap.mem_entries_iff.mpr found)
    exact (congrArg (fun boxes => boxes.pending actor.inbox) inboxes).trans (loop.left _ member)
  · intro ref msg member
    replace member : msg ∈ ((ord.visit rt.actors.entries).foldl (ActorRuntime.tickActor tickNum)
        ⟨rt, [], []⟩).runtime.inboxes.pending ref := by
      rw [← inboxes]
      exact member
    by_cases owned : ∃ entry ∈ ord.visit rt.actors.entries, entry.2.inbox = ref
    · obtain ⟨entry, visited, rfl⟩ := owned
      rw [loop.left entry visited] at member
      exact drainInbox_left _ _ msg member
    · push Not at owned
      rw [loop.untouched ref owned] at member
      exact member
  · exact (congrArg Inboxes.next inboxes).trans loop.next

theorem Consistent.tick (inv : Consistent rt) (ord : Order) (tickNum : UInt64) :
    Consistent (rt.tick ord tickNum).2 := by
  have loop := consistent_rounds tickNum ⟨rt, [], []⟩ _ inv (visits_all rt ord)
  have after := loop.despawnAll
    ((ord.visit rt.actors.entries).foldl (ActorRuntime.tickActor tickNum) ⟨rt, [], []⟩).toDespawn
  exact ⟨⟨after.sameKeys, after.feeds, after.filed, after.onlyLive, after.occupied, after.total, after.counted⟩,
    after.keyed, after.allocated, after.ownInbox⟩

-- without a `Shutdown` every actor survives, and its inbox is empty afterwards
theorem tick_running (inv : Wired rt) (active : ∀ id actor, rt.actors.lookup id = some actor → actor.lifecycle = .Active)
    (running : ∀ ref, .Shutdown ∉ rt.inboxes.pending ref) (ord : Order) (tickNum : UInt64) (id : ActorId) :
    (rt.tick ord tickNum).2.actors.lookup id = (rt.actors.lookup id).map (ticked rt tickNum) := by
  rw [(tick_spec inv ord tickNum).lookup]
  cases found : rt.actors.lookup id with
  | none => rfl
  | some actor =>
      have lifecycle : (ticked rt tickNum actor).lifecycle = .Active := by
        rw [ticked, afterTick_lifecycle, drained, (drainInbox_running (running _) _).1]
        exact active id actor found
      rw [Option.map_some, Option.filter_some_pos]
      rw [Actor.isAlive, lifecycle]

/-! ## All reachable states -/

theorem consistent_apply (call : RuntimeCall) (inv : Consistent rt) (fresh : call.Fresh rt) :
    Consistent (call.apply rt) := by
  cases call with
  | spawn spec => exact inv.spawn fresh
  | despawn id => exact inv.despawn id
  | tick ord tickNum => exact inv.tick ord tickNum
  | send handle msg => exact inv.send handle msg

theorem consistent_reachable {cfg : WorldConfig} (reachable : RuntimeReachable cfg rt) : Consistent rt := by
  refine reachable.invariant ?_ ?_
  · intro rt equal
    subst equal
    exact consistent_new cfg
  · intro rt call after inv fresh moved
    cases moved
    exact consistent_apply call inv fresh

theorem bookkeeping_reachable (cfg : WorldConfig) (rt : ActorRuntime) (reachable : RuntimeReachable cfg rt) :
    Bookkeeping rt :=
  (consistent_reachable reachable).toBookkeeping

theorem bookkeeping_reachable_move :
    Bookkeeping ((((ActorRuntime.new .default).spawnActor (villager 1 ⟨5, 5⟩)).2.send ⟨⟨1⟩, 0⟩
      (.Move ⟨50, 5⟩)).2.tick .stored 1).2 := by
  apply bookkeeping_reachable .default
  refine .step (a := .tick .stored 1) (.step (a := .send ⟨⟨1⟩, 0⟩ (.Move ⟨50, 5⟩))
    (.step (a := .spawn (villager 1 ⟨5, 5⟩)) (.start rfl) ?_ rfl) trivial rfl) trivial rfl
  exact AList.notMem_empty _

end LiveWorld.Proof.Runtime

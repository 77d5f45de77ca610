import LiveWorld.Proof.Runtime.Bookkeeping
import LiveWorld.Spec.Orders

/-!
# The order of the actors does not matter

What a tick makes of an actor depends on that actor alone, and where everybody is filed follows from the actors.
-/

namespace LiveWorld.Proof.Runtime
open HashTable Spec
variable {rt rt' : ActorRuntime} {ord : Order} {tickNum : UInt64}

theorem drainInbox_own (actor : Actor) (messages : List ActorMessage) :
    ∀ effect ∈ (actor.drainInbox messages).2.1, owner effect = actor.spec.id := by
  refine drainInbox_effects (P := fun later => later.spec = actor.spec) (fun later msg same => ?_)
    (fun later msg same effect member => ?_) rfl messages
  · exact (handleMessage_same later msg).1.spec.trans same
  · rw [← same]
    cases msg with
    | TakeDamage amount fromName =>
        simp only [Actor.handleMessage, Actor.takeDamage] at member
        split_ifs at member <;> rw [List.mem_singleton.mp member] <;> rfl
    | GainXp amount =>
        simp only [Actor.handleMessage, Actor.gainXp] at member
        split_ifs at member
        · rw [List.mem_singleton.mp member]
          rfl
        · cases member
    | Shutdown => cases member
    | Move | Speak | Interact =>
        rw [List.mem_singleton.mp member]
        rfl

/-! ## Handles -/

theorem despawnAll_handles (ids : List ActorId) {id : ActorId} {handle : ActorHandle}
    (held : (despawnAll rt ids).handles.lookup id = some handle) : rt.handles.lookup id = some handle := by
  induction ids generalizing rt with
  | nil => exact held
  | cons first rest ih =>
      have before := ih held
      cases found : rt.actors.lookup first with
      | none =>
          simp only [ActorRuntime.despawnActor, found] at before
          exact before
      | some actor =>
          simp only [ActorRuntime.despawnActor, found, HashMap.lookup_erase_eq] at before
          split_ifs at before
          exact before

theorem tick_handles {id : ActorId} {handle : ActorHandle}
    (held : (rt.tick ord tickNum).2.handles.lookup id = some handle) : rt.handles.lookup id = some handle := by
  have loop (todo : List ((_ : ActorId) × Actor)) (loop : ActorRuntime.TickLoop) :
      (todo.foldl (ActorRuntime.tickActor tickNum) loop).runtime.handles = loop.runtime.handles := by
    induction todo generalizing loop with
    | nil => rfl
    | cons entry rest ih => exact ih _
  have kept := despawnAll_handles _ held
  rw [loop] at kept
  exact kept

/-- Who stays keeps its handle. -/
theorem handles_tick (inv : Wired rt) (ord : Order) (tickNum : UInt64) (id : ActorId) :
    (rt.tick ord tickNum).2.handles.lookup id =
      ((rt.tick ord tickNum).2.actors.lookup id).bind fun _ => rt.handles.lookup id := by
  have wired := (tick_spec inv ord tickNum).wired
  cases live : (rt.tick ord tickNum).2.actors.lookup id with
  | none =>
      refine AList.lookup_eq_none.mpr fun held => ?_
      exact AList.lookup_eq_none.mp live ((wired.sameKeys id).mpr held)
  | some actor =>
      obtain ⟨handle, held⟩ := HashMap.lookup_of_mem ((wired.sameKeys id).mp (HashMap.mem_of_lookup live))
      rw [held, Option.bind_some, tick_handles held]

/-! ## The grid -/

theorem Bookkeeping.filed_iff (inv : Bookkeeping rt) (cell : GridCell) (id : ActorId) :
    Filed rt.grid cell id ↔ ∃ actor, rt.actors.lookup id = some actor ∧ cell = actor.state.cell := by
  constructor
  · intro filed
    obtain ⟨actor, found⟩ := HashMap.lookup_of_mem (inv.onlyLive cell id filed)
    exact ⟨actor, found, (inv.filed id actor found cell).mp filed⟩
  · rintro ⟨actor, found, here⟩
    exact (inv.filed id actor found cell).mpr here

theorem mem_membersOf {grid : SpatialGrid} {cell : GridCell} {members : Finset ActorId}
    (found : membersOf grid cell = some members) (id : ActorId) : id ∈ members ↔ Filed grid cell id := by
  obtain ⟨set, there, rfl⟩ := Option.map_eq_some_iff.mp found
  rw [List.mem_toFinset, AList.mem_keys.symm]
  constructor
  · exact fun member => ⟨set, there, member⟩
  · rintro ⟨other, same, member⟩
    cases there.symm.trans same
    exact member

/-- No cell of the grid is empty. -/
theorem membersOf_eq_none (occupied : Occupied rt.grid) {cell : GridCell} :
    membersOf rt.grid cell = none ↔ ∀ id, ¬Filed rt.grid cell id := by
  constructor
  · rintro absent id ⟨set, there, -⟩
    rw [membersOf, there] at absent
    cases absent
  · intro nobody
    refine Option.map_eq_none_iff.mpr ?_
    cases there : rt.grid.cells.lookup cell with
    | none => rfl
    | some set =>
        refine absurd (AList.ext ?_) (occupied cell set there)
        refine List.eq_nil_iff_forall_not_mem.mpr fun entry member => nobody entry.1 ⟨set, there, ?_⟩
        exact HashMap.mem_of_lookup (HashMap.mem_entries_iff.mp member)

theorem membersOf_congr (inv : Bookkeeping rt) (inv' : Bookkeeping rt')
    (same : ∀ id, rt.actors.lookup id = rt'.actors.lookup id) (cell : GridCell) :
    membersOf rt.grid cell = membersOf rt'.grid cell := by
  have filed (id : ActorId) : Filed rt.grid cell id ↔ Filed rt'.grid cell id := by
    rw [Bookkeeping.filed_iff inv, Bookkeeping.filed_iff inv', same]
  cases found : membersOf rt.grid cell with
  | none =>
      rw [membersOf_eq_none inv.occupied] at found
      refine ((membersOf_eq_none inv'.occupied).mpr fun id there => ?_).symm
      exact found id ((filed id).mpr there)
  | some members =>
      cases found' : membersOf rt'.grid cell with
      | none =>
          rw [membersOf_eq_none inv'.occupied] at found'
          have nobody : membersOf rt.grid cell = none :=
            (membersOf_eq_none inv.occupied).mpr fun id there => found' id ((filed id).mp there)
          cases found.symm.trans nobody
      | some members' =>
          congr 1
          ext id
          rw [mem_membersOf found, mem_membersOf found', filed]

/-! ## Any two orders -/

theorem tick_order_irrelevant (inv : Consistent rt) (ord ord' : Order) (tickNum : UInt64) :
    SameOutcome (rt.tick ord tickNum) (rt.tick ord' tickNum) := by
  have one := tick_spec inv.toWired ord tickNum
  have other := tick_spec inv.toWired ord' tickNum
  have books := inv.tick ord tickNum
  have books' := inv.tick ord' tickNum
  have actors (id : ActorId) : (rt.tick ord tickNum).2.actors.lookup id = (rt.tick ord' tickNum).2.actors.lookup id := by
    rw [one.lookup, other.lookup]
  have effects : (rt.tick ord tickNum).1.Perm (rt.tick ord' tickNum).1 := by
    rw [one.effects, other.effects]
    exact ((ord.perm _).trans (ord'.perm _).symm).flatMap_right _
  refine ⟨actors, fun id actor found => ?_, fun id => ?_, ?_, one.cellSize.trans other.cellSize.symm, ?_, effects,
    fun id => ?_⟩
  · -- the actor has the inbox it had before the tick
    rw [one.lookup, Option.filter_eq_some_iff, Option.map_eq_some_iff] at found
    obtain ⟨⟨before, there, rfl⟩, -⟩ := found
    have inbox : (ticked rt tickNum before).inbox = before.inbox := (afterTick_same _ _ _ _).inbox
    rw [inbox, one.left id before there, other.left id before there]
  · rw [handles_tick inv.toWired, handles_tick inv.toWired, actors]
  · exact membersOf_congr books.toBookkeeping books'.toBookkeeping actors
  · have total : (rt.tick ord tickNum).2.stats.totalActors = (rt.tick ord' tickNum).2.stats.totalActors :=
      books.counted.trans ((HashMap.size_congr actors).trans books'.counted.symm)
    have fields (ord : Order) : (rt.tick ord tickNum).2.stats =
        ⟨(rt.tick ord tickNum).2.stats.totalActors, (rt.tick ord tickNum).1.length, tickNum⟩ := rfl
    rw [fields ord, fields ord', total, effects.length_eq]
  · have own (id : ActorId) (actor : Actor) (found : rt.actors.lookup id = some actor) :
        ∀ effect ∈ effectsOf rt tickNum actor, owner effect = id := by
      intro effect member
      rw [← (inv.keyed id actor found).1]
      exact drainInbox_own (actor.tick tickNum) _ effect member
    rw [effectsFrom, effectsFrom, one.effects, other.effects, HashMap.filter_flatMap_visit own,
      HashMap.filter_flatMap_visit own]

def backwards : Order := ⟨List.reverse, List.reverse_perm⟩

/-- Two neighbours are about to change places. -/
def neighbours : ActorRuntime :=
  let rt := ((ActorRuntime.new .default).spawnActor (villager 1 ⟨5, 5⟩)).2
  let rt := (rt.spawnActor (villager 2 ⟨15, 5⟩)).2
  let rt := (rt.send ⟨⟨1⟩, 0⟩ (.Move ⟨15, 5⟩)).2
  (rt.send ⟨⟨2⟩, 1⟩ (.Move ⟨5, 5⟩)).2

theorem neighbours_swap_in_any_order :
    (neighbours.tick .stored 1).1 ≠ (neighbours.tick backwards 1).1 ∧
      SameOutcome (neighbours.tick .stored 1) (neighbours.tick backwards 1) := by
  refine ⟨by decide +kernel, tick_order_irrelevant (.send (.send (.spawn (.spawn (consistent_new _) ?_) ?_) _ _) _ _) _ _ _⟩
  · exact AList.notMem_empty _
  · decide +kernel

end LiveWorld.Proof.Runtime

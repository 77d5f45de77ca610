import LiveWorld.Lib.Split
import LiveWorld.Proof.Engine.Peace

/-!
# Runtimes that mirror each other

A runtime and a family of others hold the same actors: what is seen of each actor of the one is seen in exactly one of
the others, and the handles that were returned together feed the same actor.
-/

namespace LiveWorld.Proof.Shard
open HashTable Spec Proof.Runtime Proof.Engine
variable {shardCount : Nat} {rt rt' : ActorRuntime} {rts rts' : Fin shardCount → ActorRuntime}
  {handles : List (ActorHandle × ShardHandle shardCount)}

structure SameWire (rt : ActorRuntime) (rts : Fin shardCount → ActorRuntime)
    (pair : ActorHandle × ShardHandle shardCount) : Prop where
  allocated : pair.1.sender < rt.inboxes.next
  shardAllocated : pair.2.handle.sender < (rts pair.2.shard).inboxes.next
  same : ∀ id, wire rt id = some pair.1.sender ↔ wire (rts pair.2.shard) id = some pair.2.handle.sender

structure Mirrored (rt : ActorRuntime) (rts : Fin shardCount → ActorRuntime)
    (handles : List (ActorHandle × ShardHandle shardCount)) : Prop where
  views : Split (view rt) fun shard => view (rts shard)
  wires : ∀ pair ∈ handles, SameWire rt rts pair

theorem Mirrored.live (mirrored : Mirrored rt rts handles) (id : ActorId) :
    id ∈ rt.actors ↔ ∃ shard, id ∈ (rts shard).actors := by
  simp only [← view_isSome]
  exact mirrored.views.isSome_iff id

theorem Mirrored.one (mirrored : Mirrored rt rts handles) {id : ActorId} {shard shard' : Fin shardCount}
    (here : id ∈ (rts shard).actors) (there : id ∈ (rts shard').actors) : shard = shard' :=
  mirrored.views.apart id shard shard' ((view_isSome _ _).mpr here) ((view_isSome _ _).mpr there)

theorem view_none {id : ActorId} (absent : id ∉ rt.actors) : view rt id = none := by
  rw [← Option.not_isSome_iff_eq_none, view_isSome]
  exact absent

theorem wire_mem {id : ActorId} {ref : QueueRef} (wired : wire rt id = some ref) : id ∈ rt.actors := by
  rw [← wire_isSome, wired]
  rfl

/-! ## Spawning -/

theorem wire_next (inv : Wired rt) (spec : ActorSpec) (id : ActorId) :
    wire (rt.spawnActor spec).2 id = some rt.inboxes.next ↔ id = spec.id := by
  rw [wire_spawn]
  split_ifs with mine
  · exact iff_of_true rfl mine
  · refine iff_of_false ?_ mine
    intro wired
    rw [wire, Option.map_eq_some_iff] at wired
    obtain ⟨actor, found, same⟩ := wired
    exact absurd (inv.allocated id actor found) (by rw [same]; exact lt_irrefl _)

-- a handle that was there before does not feed the newborn
theorem wire_spawn_old {ref : QueueRef} (old : ref < rt.inboxes.next) (spec : ActorSpec) (id : ActorId) :
    wire (rt.spawnActor spec).2 id = some ref ↔ id ≠ spec.id ∧ wire rt id = some ref := by
  rw [wire_spawn]
  split_ifs with mine
  · refine iff_of_false ?_ fun both => both.1 mine
    intro same
    rw [Option.some.inj same] at old
    exact lt_irrefl _ old
  · exact (and_iff_right mine).symm

theorem Mirrored.spawn (mirrored : Mirrored rt rts handles) (wired : Wired rt) (wireds : ∀ shard, Wired (rts shard))
    (cellSize : ∀ shard, (rts shard).grid.cellSize = rt.grid.cellSize) {spec : ActorSpec} (fresh : spec.id ∉ rt.actors)
    {idx : Fin shardCount}
    (after : ∀ shard, rts' shard = if shard = idx then ((rts idx).spawnActor spec).2 else rts shard) :
    Mirrored (rt.spawnActor spec).2 rts'
      (handles ++ [((rt.spawnActor spec).1, ⟨idx, ((rts idx).spawnActor spec).1⟩)]) := by
  have absent (shard : Fin shardCount) : spec.id ∉ (rts shard).actors :=
    fun there => fresh ((mirrored.live _).mpr ⟨shard, there⟩)
  constructor
  · refine mirrored.views.set idx (fun shard _ => view_none (absent shard)) (view_spawn wired spec) ?_
    intro shard id
    rw [after]
    by_cases here : shard = idx
    · subst here
      rw [if_pos rfl, view_spawn (wireds shard), cellSize]
      simp only [true_and]
    · rw [if_neg here, if_neg fun both => here both.1]
  · intro pair member
    rcases List.mem_append.mp member with old | new
    · have wire := mirrored.wires pair old
      refine ⟨Nat.lt_succ_of_lt wire.allocated, ?_, ?_⟩
      · rw [after]
        split_ifs with here
        · exact Nat.lt_succ_of_lt (here ▸ wire.shardAllocated)
        · exact wire.shardAllocated
      · intro id
        rw [wire_spawn_old wire.allocated, wire.same, after]
        split_ifs with here
        · rw [here, wire_spawn_old (here ▸ wire.shardAllocated)]
        · refine and_iff_right_of_imp fun wired same => ?_
          rw [same] at wired
          exact absent _ (wire_mem wired)
    · obtain rfl := List.mem_singleton.mp new
      refine ⟨Nat.lt_succ_self _, ?_, ?_⟩
      · rw [after, if_pos rfl]
        exact Nat.lt_succ_self _
      · intro id
        rw [after, if_pos rfl]
        exact (wire_next wired spec id).trans (wire_next (wireds idx) spec id).symm

/-! ## Leaving -/

theorem Mirrored.despawn (mirrored : Mirrored rt rts handles) {gone : ActorId} {idx : Fin shardCount}
    (others : ∀ shard, shard ≠ idx → gone ∉ (rts shard).actors)
    (after : ∀ shard, rts' shard = if shard = idx then ((rts idx).despawnActor gone).2 else rts shard) :
    Mirrored (rt.despawnActor gone).2 rts' handles := by
  constructor
  · refine mirrored.views.set idx (fun shard away => view_none (others shard away)) (view_despawn rt gone) ?_
    intro shard id
    rw [after]
    by_cases here : shard = idx
    · subst here
      rw [if_pos rfl, view_despawn]
      simp only [true_and]
    · rw [if_neg here, if_neg fun both => here both.1]
  · intro pair member
    have wire := mirrored.wires pair member
    refine ⟨?_, ?_, ?_⟩
    · rw [despawnActor_inboxes]
      exact wire.allocated
    · rw [after]
      split_ifs with here
      · rw [despawnActor_inboxes, ← here]
        exact wire.shardAllocated
      · exact wire.shardAllocated
    · intro id
      rw [wire_despawn, after]
      by_cases mine : id = gone
      · subst mine
        rw [if_pos rfl]
        refine iff_of_false (Option.some_ne_none _).symm ?_
        split_ifs with here
        · rw [wire_despawn, if_pos rfl]
          exact (Option.some_ne_none _).symm
        · exact fun wired => others _ here (wire_mem wired)
      · rw [if_neg mine, wire.same]
        split_ifs with here
        · rw [wire_despawn, if_neg mine, here]
        · rfl

/-! ## Messages and ticks -/

-- nobody comes or goes, and everybody keeps their inbox
theorem Mirrored.keep (mirrored : Mirrored rt rts handles) (f : ActorId → Actor × List ActorMessage → Actor × List ActorMessage)
    (views : ∀ id, view rt' id = (view rt id).map (f id))
    (shardViews : ∀ shard id, view (rts' shard) id = (view (rts shard) id).map (f id))
    (wires : ∀ id, wire rt' id = wire rt id) (shardWires : ∀ shard id, wire (rts' shard) id = wire (rts shard) id)
    (next : rt'.inboxes.next = rt.inboxes.next)
    (shardNext : ∀ shard, (rts' shard).inboxes.next = (rts shard).inboxes.next) : Mirrored rt' rts' handles := by
  refine ⟨mirrored.views.map f views shardViews, fun pair member => ?_⟩
  have wire := mirrored.wires pair member
  refine ⟨next ▸ wire.allocated, shardNext _ ▸ wire.shardAllocated, fun id => ?_⟩
  rw [wires, shardWires]
  exact wire.same id

theorem Mirrored.send (mirrored : Mirrored rt rts handles) {pair : ActorHandle × ShardHandle shardCount}
    (returned : pair ∈ handles) (msg : ActorMessage)
    (after : ∀ shard, rts' shard =
      if shard = pair.2.shard then ((rts pair.2.shard).send pair.2.handle msg).2 else rts shard) :
    Mirrored (rt.send pair.1 msg).2 rts' handles := by
  have fed := (mirrored.wires pair returned).same
  refine mirrored.keep _ (view_send rt pair.1 msg) ?_ (fun _ => rfl) ?_ (send_next _ _ _) ?_
  · intro shard id
    rw [after]
    by_cases here : shard = pair.2.shard
    · rw [if_pos here, view_send, here]
      simp only [fed]
    · rw [if_neg here]
      -- whoever the handle feeds is in the shard of the handle
      cases seen : view (rts shard) id with
      | none => rfl
      | some actor =>
          have there : id ∈ (rts shard).actors := by
            rw [← view_isSome, seen]
            rfl
          rw [if_neg fun wired => here (mirrored.one there (wire_mem ((fed id).mp wired)))]
          rfl
  · intro shard id
    rw [after]
    split_ifs with here
    · rw [here]
      rfl
    · rfl
  · intro shard
    rw [after]
    split_ifs with here
    · rw [here]
      exact send_next _ _ _
    · rfl

end LiveWorld.Proof.Shard

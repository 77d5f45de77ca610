import LiveWorld.Proof.Engine.Windows
import LiveWorld.Proof.Shard.Runs

/-!
# Sessions see their own shard

The delta of a session is made of the snapshot and the grid of its shard. It misses nobody of that shard,
so it is complete as long as the others stay away from the anchor.
-/

namespace LiveWorld.Proof.Shard
open HashTable Machine Spec Proof.Runtime Proof.Engine
variable {cfg : WorldConfig} {shardCount : Nat} {atLeastOne : shardCount ≥ 1} {engine : ShardedEngine shardCount}

theorem watching_shards (reachable : ShardReachable cfg atLeastOne SpawnsInView engine) :
    EveryShard (Watching cfg.interestRadius) engine := by
  refine shards_invariant ?_ ?_ reachable
  · exact ⟨windows_new cfg, fun s member => absurd member List.not_mem_nil⟩
  · intro engine call shard one inView projects inv
    refine inv.call one fun spec member => ?_
    obtain ⟨listed, session, same⟩ := projects.spawned spec member
    rw [session, same]
    exact inView spec listed

def Together (engine : ShardedEngine shardCount) : Prop :=
  ∀ shard, (engine.shards shard).tickCount = engine.globalTick

theorem together_reachable {allowed : ShardedEngine shardCount → ShardCall shardCount → Prop}
    (reachable : ShardReachable cfg atLeastOne allowed engine) : Together engine := by
  refine reachable.invariant ?_ ?_
  · intro engine first shard
    subst first
    rfl
  · intro engine call after together _ moved shard
    cases moved
    rw [globalTick_apply]
    have taken := taken engine call shard
    generalize (call.apply engine).shards shard = result at taken
    cases taken with
    | stays other =>
        rw [other]
        exact together shard
    | takes one projects => rw [tickCount_call, projects.ticks, together shard]

/-- In every run, a tick shows every session all actors around its anchor, unless some come near from another shard. -/
theorem sees_all_shards (cfg : WorldConfig) (radiusI32 : cfg.interestRadius ≤ maxI32) (atLeastOne : shardCount ≥ 1)
    (engine : ShardedEngine shardCount) (reachable : ShardReachable cfg atLeastOne SpawnsInView engine)
    (ord : Fin shardCount → Order) (clock : Fin shardCount → SessionId → UInt64)
    (nobody : NobodyAcross cfg.interestRadius engine) :
    SeesAllShards cfg.interestRadius (engine.tick ord clock) := by
  intro shard session anchor cell mine window live there id actor found near
  have inv := watching_shards reachable shard
  by_cases here : there = shard
  · subst here
    obtain ⟨queue, delta, queued, last, tick, updated⟩ :=
      inv.sees radiusI32 (ord there) (clock there) window live found near
    refine ⟨queue, delta, queued, last, ?_, updated⟩
    rw [tick, together_reachable reachable there]
    rfl
  · have elsewhere := watching_shards reachable there
    obtain ⟨mine', before, staying, cell'⟩ := tick_bound inv.wired (ord shard) (clock shard) live
    obtain ⟨actor', before', staying', cell''⟩ := tick_bound elsewhere.wired (ord there) (clock there) found
    -- the windows of a tick belong to the sessions that had one before it
    have same := (effected_applyEffects (engine.shards shard) (ord shard)).anchors session
    have window' : ((engine.shards shard).applyEffects (ord shard)).interest.sessionAnchors.lookup session =
        some (anchor, cell) := by
      rw [← (finished_tick (engine.shards shard) (ord shard) (clock shard)).interest]
      exact window
    rw [window', Option.map_some] at same
    obtain ⟨⟨anchor', cell₀⟩, window₀, equal⟩ := Option.map_eq_some_iff.mp same.symm
    obtain rfl : anchor' = anchor := equal
    have far := nobody shard session anchor' cell₀ mine' window₀ before staying there here id actor' before' staying'
    rw [cell', cell''] at near
    omega

/-! ## Two neighbours -/

instance (engine : WorldEngine) (actor : Actor) : Decidable (Staying engine actor) := inferInstanceAs (Decidable (_ ∉ _))

theorem inView_iff {one : WorldEngine} {spec : ActorSpec} {registered : Option SessionId} :
    InView one spec registered ↔ ∀ window ∈ one.interest.sessionAnchors.entries, registered ≠ some window.1 →
      window.2.1 = spec.id → window.2.2 = spec.position.toGridCell one.runtime.grid.cellSize := by
  constructor
  · intro inView window member other same
    obtain ⟨session, anchor, cell⟩ := window
    obtain rfl : anchor = spec.id := same
    exact inView session cell other (HashMap.mem_entries_iff.mp member)
  · intro all session cell other window
    exact all ⟨session, spec.id, cell⟩ (HashMap.mem_entries_iff.mpr window) other rfl

instance (one : WorldEngine) (spec : ActorSpec) (registered : Option SessionId) : Decidable (InView one spec registered) :=
  decidable_of_iff' _ inView_iff

instance (engine : ShardedEngine shardCount) (call : ShardCall shardCount) : Decidable (SpawnsInView engine call) := by
  unfold SpawnsInView
  infer_instance

theorem nobodyAcross_of_entries {radius : Int}
    (all : ∀ shard, ∀ window ∈ (engine.shards shard).interest.sessionAnchors.entries,
      ∀ mine ∈ (engine.shards shard).runtime.actors.lookup window.2.1, Staying (engine.shards shard) mine →
      ∀ there, there ≠ shard → ∀ entry ∈ (engine.shards there).runtime.actors.entries,
        Staying (engine.shards there) entry.2 →
        radius < (bound (engine.shards there) entry.2).chebyshev (bound (engine.shards shard) mine)) :
    NobodyAcross radius engine := by
  intro shard session anchor cell mine window live staying there elsewhere id actor found
  exact all shard ⟨session, anchor, cell⟩ (HashMap.mem_entries_iff.mpr window) mine live staying there elsewhere
    ⟨id, actor⟩ (HashMap.mem_entries_iff.mpr found)

-- a session with two actors left of the boundary at 5000, and one from beyond that has been told to go to `dest`
def neighbours (dest : Rat) : ShardedEngine 2 := afterCalls
  [.spawnActorForSession .stored (villager 1 ⟨4990, 500⟩) ⟨1⟩, .spawnActorStandalone (villager 2 ⟨4980, 500⟩),
    .spawnActorStandalone (villager 3 ⟨6000, 500⟩), .applyDirective (.ForceMove ⟨3⟩ ⟨dest, 500⟩)]

theorem sees_all_shards_neighbours :
    SeesAllShards 5 ((neighbours 5500).tick (fun _ => .stored) fun _ _ => 0) := by
  refine sees_all_shards .default (by decide) (by decide) _ (reachable_afterCalls (by decide +kernel)) _ _
    (nobodyAcross_of_entries ?_)
  decide +kernel

def lastUpdates (queue : Option SessionQueue) : List ActorState :=
  match queue.bind List.getLast? with
  | some (.Delta delta) => delta.updates
  | _ => []

theorem visitor_overlooked :
    ¬ ∀ engine : ShardedEngine 2, ShardReachable .default (by decide) SpawnsInView engine → ∀ ord clock,
      SeesAllShards WorldConfig.default.interestRadius (engine.tick ord clock) := by
  intro claimed
  have sees := claimed (neighbours 5010) (reachable_afterCalls (by decide +kernel)) (fun _ => .stored) fun _ _ => 0
  generalize shown : ShardedEngine.tick _ _ _ = engine at sees
  obtain ⟨mine, live, visitor, found, near, missing⟩ :
      ∃ mine ∈ (engine.shards 0).runtime.actors.lookup ⟨1⟩, ∃ visitor ∈ (engine.shards 1).runtime.actors.lookup ⟨3⟩,
        visitor.state.cell.chebyshev mine.state.cell ≤ 5 ∧
          visitor.state ∉ lastUpdates ((engine.shards 0).sessionQueues.lookup ⟨1⟩) := by
    subst shown
    decide +kernel
  have window : (engine.shards 0).interest.sessionAnchors.lookup ⟨1⟩ = some (⟨1⟩, ⟨499, 50⟩) := by
    subst shown
    decide +kernel
  obtain ⟨queue, delta, queued, last, -, updated⟩ := sees 0 ⟨1⟩ ⟨1⟩ _ mine window live 1 ⟨3⟩ visitor found near
  rw [queued, lastUpdates, Option.bind_some, last] at missing
  exact missing updated

end LiveWorld.Proof.Shard

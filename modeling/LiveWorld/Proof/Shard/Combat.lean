import LiveWorld.Proof.Shard.Runs

/-!
# Attacks stay in the attacker's shard

The target of an attack is looked up in the previous snapshot and in the handles of the shard that
processes the attack. In that shard the damage arrives; in another one nothing happens.
-/

namespace LiveWorld.Proof.Shard
open HashTable Spec Proof.Runtime Proof.Engine
variable {cfg : WorldConfig} {shardCount : Nat} {atLeastOne : shardCount ≥ 1} {engine : ShardedEngine shardCount}
  {ord : Fin shardCount → Order} {clock : Fin shardCount → SessionId → UInt64} {one : WorldEngine}

/-! ## One attack in one engine -/

/-- Whom an attack can find in an engine. -/
structure Roster (one : WorldEngine) : Prop where
  wired : Wired one.runtime
  distinct : (one.prevSnapshot.map ActorState.id).Nodup

theorem find_of_mem {states : List ActorState} (distinct : (states.map ActorState.id).Nodup) {s : ActorState}
    (member : s ∈ states) : states.find? (fun other => other.id = s.id) = some s := by
  induction states with
  | nil => cases member
  | cons first rest ih =>
      rw [List.map_cons, List.nodup_cons] at distinct
      rcases List.mem_cons.mp member with same | later
      · subst same
        exact List.find?_cons_of_pos (decide_eq_true rfl)
      · rw [List.find?_cons_of_neg, ih distinct.2 later]
        simp only [decide_eq_true_eq]
        exact fun same => distinct.1 (same ▸ List.mem_map_of_mem later)

theorem shiftTerritory_runtime (one : WorldEngine) (zone : ZoneId) (winner : Faction) :
    (one.shiftTerritory zone winner).runtime = one.runtime := by
  unfold WorldEngine.shiftTerritory
  split_ifs
  · rfl
  · rfl
  · simp only
    split_ifs <;> rfl

theorem Roster.resolveCombat (inv : Roster one) {attacker target : ActorState} {victim : Actor}
    (attackerSeen : attacker ∈ one.prevSnapshot) (targetSeen : target ∈ one.prevSnapshot)
    (hostile : attacker.faction.isHostileTo target.faction = true)
    (live : one.runtime.actors.lookup target.id = some victim)
    (room : (one.runtime.inboxes.pending victim.inbox).length < queueSize - 1) :
    (one.resolveCombat attacker.id target.id).runtime.inboxes.pending victim.inbox =
      one.runtime.inboxes.pending victim.inbox ++
        [.TakeDamage (WorldEngine.attackDamage attacker.level target.level) attacker.name] := by
  have different : attacker.id ≠ target.id := by
    intro same
    have found := find_of_mem inv.distinct attackerSeen
    rw [same, find_of_mem inv.distinct targetSeen] at found
    rw [← Option.some.inj found] at hostile
    cases faction : target.faction <;> simp [faction, Faction.isHostileTo] at hostile
  unfold WorldEngine.resolveCombat
  rw [find_of_mem inv.distinct attackerSeen, find_of_mem inv.distinct targetSeen]
  simp only [hostile, Bool.not_true, Bool.false_eq_true, if_false, WorldEngine.broadcastWorldEvent,
    shiftTerritory_runtime]
  have struck := effected_sendToActor one target.id
    (.TakeDamage (WorldEngine.attackDamage attacker.level target.level) attacker.name)
  have still : (one.sendToActor target.id
      (.TakeDamage (WorldEngine.attackDamage attacker.level target.level) attacker.name)).2.runtime.actors.lookup
        target.id = some victim := by
    rw [struck.actors]
    exact live
  rw [pending_sendToActor (struck.wired inv.wired) still, if_neg fun both => different both.1,
    pending_sendToActor inv.wired live, if_pos ⟨rfl, room⟩]

/-! ## In every run -/

theorem roster_call (call : EngineCall) (inv : Roster one) : Roster (call.apply one) := by
  refine ⟨wired_call call inv.wired, ?_⟩
  cases ticks : call.isTick with
  | false =>
      rw [prevSnapshot_call call ticks]
      exact inv.distinct
  | true =>
      cases call with
      | tick ord clock =>
          have finished := finished_tick one ord clock
          rw [EngineCall.apply, finished.prevSnapshot]
          exact snapshot_distinct ((effected_applyEffects one ord).wired (tick_spec inv.wired ord _).wired) ord
      | _ => cases ticks

theorem roster_shards {allowed : ShardedEngine shardCount → ShardCall shardCount → Prop}
    (reachable : ShardReachable cfg atLeastOne allowed engine) : EveryShard Roster engine := by
  refine shards_invariant ?_ ?_ reachable
  · exact ⟨(consistent_new cfg).toWired, List.nodup_nil⟩
  · exact fun _ _ _ call _ _ inv => roster_call call inv

section Strike
variable (strike : Strike engine ord clock)

theorem effected_before : Effected Combat (afterDrain (engine.shards strike.shard) (ord strike.shard)) strike.before :=
  effected_effects _ _ _

theorem Roster.before (inv : Roster (engine.shards strike.shard)) : Roster strike.before := by
  have effected := effected_before strike
  refine ⟨effected.wired (tick_spec inv.wired _ _).wired, ?_⟩
  rw [effected.prevSnapshot]
  exact inv.distinct

theorem tick_inboxes (valid : strike.Valid) :
    ((engine.tick ord clock).shards strike.shard).runtime =
      (strike.later.foldl (WorldEngine.processEffect (ord strike.shard)) strike.after).runtime := by
  change ((engine.shards strike.shard).tick (ord strike.shard) (clock strike.shard)).runtime = _
  rw [(finished_tick _ _ _).runtime]
  unfold WorldEngine.applyEffects
  simp only [valid.effects, List.foldl_append, List.foldl_cons]
  rfl

theorem inbox_here (here : strike.home = strike.shard) (now : WorldEngine) :
    during engine ord clock strike.shard now strike.home = now := by
  unfold during
  rw [if_neg (by rw [here]; exact lt_irrefl _), if_pos here]

theorem inbox_elsewhere (elsewhere : strike.home ≠ strike.shard) (now later : WorldEngine) :
    strike.inbox now = strike.inbox later := by
  unfold Strike.inbox during
  rw [if_neg elsewhere, if_neg elsewhere]

theorem Strike.same_shard {strike : Strike engine ord clock} (lands : strike.Lands) : strike.home = strike.shard := by
  obtain ⟨amount, appended, -⟩ := lands
  by_contra elsewhere
  rw [inbox_elsewhere strike elsewhere strike.after strike.before] at appended
  exact absurd appended.symm (by simp)

end Strike

/-- An attack reaches its target iff the target is in the attacker's shard. -/
theorem attack_lands_iff (cfg : WorldConfig) (atLeastOne : shardCount ≥ 1) (engine : ShardedEngine shardCount)
    (reachable : ShardReachable cfg atLeastOne (fun _ _ => True) engine) (ord : Fin shardCount → Order)
    (clock : Fin shardCount → SessionId → UInt64) (strike : Strike engine ord clock) (valid : strike.Valid) :
    strike.Lands ↔ strike.home = strike.shard := by
  constructor
  · exact Strike.same_shard
  · intro here
    have roster := (roster_shards reachable strike.shard).before strike
    have seen := (effected_before strike).prevSnapshot
    have live := valid.live
    have room := valid.room
    have targetSeen := valid.targetSeen
    unfold Strike.inbox at room
    rw [inbox_here strike here] at live room
    rw [here] at targetSeen
    have struck := roster.resolveCombat (seen.symm ▸ valid.attackerSeen) (seen.symm ▸ targetSeen) valid.hostile live room
    refine ⟨WorldEngine.attackDamage strike.attacker.level strike.target.level, ?_, ?_⟩
    · unfold Strike.inbox
      rw [inbox_here strike here, inbox_here strike here]
      exact struck
    · obtain ⟨new, appended, -⟩ := (effected_effects strike.after (ord strike.shard) strike.later).grown
        strike.victim.inbox
      rw [here, tick_inboxes strike valid, appended]
      refine List.mem_append_left _ ?_
      change _ ∈ (strike.before.resolveCombat strike.attacker.id strike.target.id).runtime.inboxes.pending _
      rw [struck]
      exact List.mem_append_right _ (List.mem_singleton.mpr rfl)

/-! ## Two fighters -/

def fighter (id : UInt64) (x : Rat) (faction : Faction) : ActorSpec := { villager id ⟨x, 500⟩ with faction }

-- the fighters have been seen by one tick, and the first is told to strike the second
def duel (x : Rat) : ShardedEngine 2 := afterCalls
  [.spawnActorStandalone (fighter 1 100 .Empire), .spawnActorStandalone (fighter 2 x .Alliance),
    .tick (fun _ => .stored) (fun _ _ => 0), .send ⟨0, ⟨⟨1⟩, 0⟩⟩ (.Interact ⟨2⟩ "ATTACK")]

theorem duel_reachable (x : Rat) : ShardReachable .default (by decide) (fun _ _ => True) (duel x) :=
  reachable_afterCalls ⟨trivial, trivial, trivial, trivial, trivial⟩

-- how a fighter stands after a tick
def standing (spec : ActorSpec) (tick : UInt64) (inbox : QueueRef) : Actor :=
  let fresh := (Actor.spawn .empty spec).1.1
  { (fresh.activate (spec.position.toGridCell WorldConfig.default.cellSize)).tick tick with inbox }

-- the strike of the second tick; by then the target has ticked if it is in the same shard
def blow (x : Rat) (home : Fin 2) (ticked : UInt64) (inbox : QueueRef) :
    Strike (duel x) (fun _ => .stored) (fun _ _ => 0) where
  shard := 0
  home := home
  earlier := []
  later := []
  attacker := (standing (fighter 1 100 .Empire) 1 0).state
  target := (standing (fighter 2 x .Alliance) 1 inbox).state
  victim := standing (fighter 2 x .Alliance) ticked inbox

theorem attack_lands_neighbours : (blow 200 0 2 1).Lands := by
  refine (attack_lands_iff .default (by decide) (duel 200) (duel_reachable 200) _ _ (blow 200 0 2 1) ?_).mpr rfl
  constructor <;> decide +kernel

theorem attack_misses_across :
    ¬ ∀ engine : ShardedEngine 2, ShardReachable .default (by decide) (fun _ _ => True) engine →
      ∀ ord clock (strike : Strike engine ord clock), strike.Valid → strike.Lands := by
  intro claimed
  have lands := claimed (duel 6000) (duel_reachable 6000) _ _ (blow 6000 1 1 0) (by constructor <;> decide +kernel)
  exact absurd (Strike.same_shard lands) (by decide)

end LiveWorld.Proof.Shard

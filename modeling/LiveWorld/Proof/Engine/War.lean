import LiveWorld.Proof.Engine.Ledger
import LiveWorld.Proof.Runtime.Damage

/-!
# Who fights, who learns and who dies

Each result is a regime: what an actor may be sent, and what such messages cannot take from it.
-/

namespace LiveWorld.Proof.Engine
open HashTable Machine Spec Proof.Runtime
variable {cfg : WorldConfig} {c : Chronicle} {engine : WorldEngine} {own : List ActorEffect} {actor : Actor}

theorem warring_of_hostile {atk victim : Faction} (hostile : atk.isHostileTo victim = true) :
    Warring atk ∧ Warring victim := by
  cases atk <;> cases victim <;> simp_all [Faction.isHostileTo, Warring]

/-! ## Bystanders -/

theorem handleMessage_faction (actor : Actor) (msg : ActorMessage) :
    (actor.handleMessage msg).1.state.faction = actor.state.faction := by
  cases msg with
  | TakeDamage amount fromName =>
      simp only [Actor.handleMessage, Actor.takeDamage]
      split_ifs <;> rfl
  | GainXp amount =>
      simp only [Actor.handleMessage, Actor.gainXp]
      split_ifs <;> rfl
  | _ => rfl

def Spared (spec : ActorSpec) (msg : ActorMessage) : Prop := Civil msg ∨ Warring spec.faction

structure Bystander (own : List ActorEffect) (actor : Actor) : Prop where
  loyal : actor.state.faction = actor.spec.faction
  unscathed : ¬Warring actor.spec.faction → Unscathed actor own

theorem unscathed_handle {msg : ActorMessage} (civil : Civil msg) (unscathed : Unscathed actor own) :
    Unscathed (actor.handleMessage msg).1 (own ++ (actor.handleMessage msg).2) := by
  cases msg with
  | TakeDamage | GainXp | Shutdown => exact civil.elim
  | Move | Speak | Interact =>
      refine ⟨unscathed.hp, unscathed.xp, unscathed.level, List.forall_mem_append.mpr ⟨unscathed.quiet, ?_⟩⟩
      intro effect member
      rw [List.mem_singleton.mp member]
      rfl

theorem bystander_handle {msg : ActorMessage} (spared : Spared actor.spec msg) (bystander : Bystander own actor) :
    Bystander (own ++ (actor.handleMessage msg).2) (actor.handleMessage msg).1 := by
  have spec := (handleMessage_same actor msg).1.spec
  refine ⟨?_, fun away => ?_⟩
  · rw [handleMessage_faction, spec]
    exact bystander.loyal
  · rw [spec] at away
    exact unscathed_handle (spared.resolve_right away) (bystander.unscathed away)

theorem born_unscathed (rt : ActorRuntime) (spec : ActorSpec) : Unscathed (newborn rt spec) [] := by
  refine ⟨?_, rfl, rfl, fun effect member => absurd member List.not_mem_nil⟩
  change (Actor.hitPoints spec.role).1 = (Actor.hitPoints spec.role).2
  cases spec.role <;> rfl

theorem bystander_same {later : Actor} (bystander : Bystander own actor) (spec : later.spec = actor.spec)
    (faction : later.state.faction = actor.state.faction) (hp : later.state.hp = actor.state.hp)
    (maxHp : later.state.maxHp = actor.state.maxHp) (merit : meritOf later = meritOf actor) : Bystander own later := by
  refine ⟨?_, fun away => ?_⟩
  · rw [faction, spec]
    exact bystander.loyal
  · rw [spec] at away
    have unscathed := bystander.unscathed away
    refine ⟨?_, (congrArg Merit.xp merit).trans unscathed.xp, (congrArg Merit.level merit).trans unscathed.level,
      unscathed.quiet⟩
    rw [hp, maxHp]
    exact unscathed.hp

theorem bystanders : Regime Spared Bystander fun _ => True where
  born rt spec := ⟨rfl, fun _ => born_unscathed rt spec⟩
  ticked _ _ _ given := bystander_same given rfl rfl rfl rfl rfl
  handled _ _ _ := bystander_handle
  moved _ _ _ _ _ _ given := bystander_same given rfl rfl rfl rfl rfl
  states _ _ _ := trivial
  loyal _ _ given := given.loyal
  civil _ _ civil := .inl civil
  blows _ _ _ _ _ hostile same := .inr (same ▸ (warring_of_hostile hostile).2)
  rewards _ _ _ _ _ hostile same := .inr (same ▸ (warring_of_hostile hostile).1)

/-! ## Zones -/

theorem held_shift (held : HeldByWarriors engine) (zone : ZoneId) {winner : Faction} (warring : Warring winner) :
    HeldByWarriors (engine.shiftTerritory zone winner) := by
  have pressed (points : UInt8) : ∀ other entry,
      (engine.zonePressure.insert zone (winner, points)).lookup other = some entry → Warring entry.1 := by
    intro other entry found
    rw [HashMap.lookup_insert_eq] at found
    split_ifs at found with here
    · cases found
      exact warring
    · exact held.pressure other entry found
  unfold WorldEngine.shiftTerritory
  split_ifs with neutral owned
  · exact held
  · exact held
  · simp only
    split_ifs
    · refine ⟨fun other owner found => ?_, fun other entry found => ?_⟩
      · change (engine.territory.insert zone winner).lookup other = some owner at found
        rw [HashMap.lookup_insert_eq] at found
        split_ifs at found with here
        · cases found
          exact .inr warring
        · exact held.owners other owner found
      · change (engine.zonePressure.erase zone).lookup other = some entry at found
        rw [HashMap.lookup_erase_eq] at found
        split_ifs at found with here
        exact held.pressure other entry found
    · exact ⟨held.owners, pressed _⟩
    · exact ⟨held.owners, pressed 1⟩

theorem held_congr (held : HeldByWarriors engine) {after : WorldEngine}
    (territory : after.territory = engine.territory) (pressure : after.zonePressure = engine.zonePressure) :
    HeldByWarriors after := by
  refine ⟨?_, ?_⟩
  · rw [territory]
    exact held.owners
  · rw [pressure]
    exact held.pressure

theorem held_resolveCombat (held : HeldByWarriors engine) (source target : ActorId) :
    HeldByWarriors (engine.resolveCombat source target) := by
  rcases idle_or_hostile engine source target with idle | ⟨atk, victim, attacker, attacked, hostile⟩
  · rw [idle]
    exact held
  · rw [resolveCombat_eq attacker attacked hostile]
    exact held_congr (held_shift held _ (warring_of_hostile hostile).1) rfl rfl

theorem held_effects (held : HeldByWarriors engine) (ord : Order) (effects : List ActorEffect) :
    HeldByWarriors (effects.foldl (WorldEngine.processEffect ord) engine) := by
  induction effects generalizing engine with
  | nil => exact held
  | cons effect rest ih =>
      apply ih
      cases effect with
      | Interact source target action =>
          simp only [WorldEngine.processEffect]
          split_ifs
          · exact held_resolveCombat held source target
          · exact held
      | Move id dest =>
          simp only [WorldEngine.processEffect, WorldEngine.followAnchor]
          cases (engine.runtime.snapshotAll ord).find? fun s => s.id = id <;> exact held_congr held rfl rfl
      | _ => exact held_congr held rfl rfl

theorem held_call (held : HeldByWarriors engine) (call : EngineCall) : HeldByWarriors (call.apply engine) := by
  cases call with
  | removeSession session despawn =>
      simp only [EngineCall.apply, WorldEngine.removeSession]
      cases despawn with
      | false => exact held_congr held rfl rfl
      | true => cases engine.sessionToActor.lookup session <;> exact held_congr held rfl rfl
  | applyDirective directive =>
      cases directive with
      | ForceMove id dest =>
          obtain ⟨runtime, sent⟩ := sendToActor_eq engine id (.Move dest)
          rw [EngineCall.apply, WorldEngine.applyDirective, sent]
          exact held_congr held rfl rfl
      | _ => exact held_congr held rfl rfl
  | drainSession session =>
      simp only [EngineCall.apply, WorldEngine.drainSession]
      cases engine.sessionQueues.lookup session <;> exact held_congr held rfl rfl
  | tick ord clock =>
      have drained : HeldByWarriors (afterDrain engine ord) := held_congr held rfl rfl
      obtain ⟨queues, pushed, -⟩ := pushDeltas_spec (engine.applyEffects ord) ord clock
      rw [EngineCall.apply, WorldEngine.tick, pushed]
      exact held_congr (held_effects drained ord _) rfl rfl
  | _ => exact held_congr held rfl rfl

theorem held_reachable (reachable : ChronicleReachable cfg c) : HeldByWarriors c.world.engine := by
  induction reachable with
  | start first =>
      subst first
      exact ⟨fun zone owner found => .inl found, fun zone entry found => absurd found (by simp [Chronicle.start,
        World.start, WorldEngine.new])⟩
  | step before allowed moved ih =>
      cases moved
      exact held_call ih _

theorem neutrals_keep_out (cfg : WorldConfig) (c : Chronicle) (reachable : ChronicleReachable cfg c) : Neutrality c := by
  obtain ⟨governs, -⟩ := bystanders.reachable reachable
  exact ⟨fun id actor found away => (governs.holds id actor found).unscathed away, held_reachable reachable⟩

/-! ## A duel with a witness -/

def combatant (id : UInt64) (faction : Faction) : ActorSpec := { villager id ⟨500, 500⟩ with faction }

-- actor 1 strikes `strikes` times at each of the others, of whom one is a mage
def duelCalls (strikes : Nat) : List EngineCall :=
  [.spawnActorStandalone (combatant 1 .Empire), .spawnActorStandalone (combatant 2 .Alliance),
    .spawnActorStandalone (combatant 3 .MagesCircle), .tick .stored fun _ => 0] ++
  List.replicate strikes (.send ⟨⟨1⟩, 0⟩ (.Interact ⟨2⟩ "ATTACK")) ++
  List.replicate strikes (.send ⟨⟨1⟩, 0⟩ (.Interact ⟨3⟩ "ATTACK")) ++
  [.tick .stored fun _ => 0, .tick .stored fun _ => 0]

def duel (strikes : Nat) : Chronicle := (duelCalls strikes).foldl Chronicle.next (Chronicle.start .default)

theorem duel_reachable {strikes : Nat}
    (allowed : Transition.Respects Chronicle.Allowed (fun c call => some (c.next call)) (Chronicle.start .default)
      (duelCalls strikes)) : ChronicleReachable .default (duel strikes) :=
  Transition.Reachable.foldl (.start rfl) allowed

theorem neutrals_keep_out_of_duel :
    (duel 2).world.engine.zonePressure.lookup .NorthForest = none ∧
      ((duel 2).world.engine.runtime.actors.lookup ⟨2⟩).map (fun actor => actor.state.hp) = some 54 ∧
      Neutrality (duel 2) :=
  ⟨by decide +kernel, by decide +kernel, neutrals_keep_out .default (duel 2) (duel_reachable (by decide +kernel))⟩

end LiveWorld.Proof.Engine

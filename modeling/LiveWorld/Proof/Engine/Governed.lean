import LiveWorld.Proof.Engine.Attack
import LiveWorld.Proof.Engine.Peace
import LiveWorld.Proof.Runtime.Orders

/-!
# Actors that get only some messages

`Lasting` is about actors that get any message at all. Here the mail of an actor is restricted by its spec, and the
property is one of the actor and of what it has reported so far. If no such message takes it away, it holds in every run
in which nobody is sent anything else.
-/

namespace LiveWorld.Proof.Engine
open HashTable Spec Proof.Runtime
variable {M : ActorSpec → ActorMessage → Prop} {Q : List ActorEffect → Actor → Prop} {own log : List ActorEffect}
  {engine after : WorldEngine}

structure Governed (M : ActorSpec → ActorMessage → Prop) (Q : List ActorEffect → Actor → Prop) : Prop where
  born : ∀ rt spec, Q [] (newborn rt spec)
  ticked : ∀ own actor tickNum, Q own actor → Q own (actor.tick tickNum)
  handled : ∀ own actor msg, M actor.spec msg → Q own actor →
    Q (own ++ (actor.handleMessage msg).2) (actor.handleMessage msg).1
  moved : ∀ own actor mover dest cell, .Move mover dest ∈ own → Q own actor → Q own (actor.applyMove dest cell)

structure Governs (M : ActorSpec → ActorMessage → Prop) (Q : List ActorEffect → Actor → Prop) (log : List ActorEffect)
    (engine : WorldEngine) : Prop where
  wired : Wired engine.runtime
  holds : ∀ id actor, engine.runtime.actors.lookup id = some actor → Q (effectsFrom id log) actor
  mail : ∀ id actor, engine.runtime.actors.lookup id = some actor →
    ∀ msg ∈ engine.runtime.inboxes.pending actor.inbox, M actor.spec msg

theorem governs_new (cfg : WorldConfig) : Governs M Q [] (WorldEngine.new cfg) := by
  have nobody : ∀ id, id ∉ (WorldEngine.new cfg).runtime.actors := fun id => AList.notMem_empty id
  refine ⟨(consistent_new cfg).toWired, fun id actor found => ?_, fun id actor found => ?_⟩
  · exact absurd (HashMap.mem_of_lookup found) (nobody id)
  · exact absurd (HashMap.mem_of_lookup found) (nobody id)

/-! ## One actor -/

theorem drainInbox_governed (governed : Governed M Q) {messages : List ActorMessage} {actor : Actor}
    (mail : ∀ msg ∈ messages, M actor.spec msg) (holds : Q own actor) :
    Q (own ++ (actor.drainInbox messages).2.1) (actor.drainInbox messages).1 := by
  induction messages generalizing own actor with
  | nil =>
      rw [Actor.drainInbox, List.append_nil]
      exact holds
  | cons msg rest ih =>
      have now := governed.handled own actor msg (mail msg List.mem_cons_self) holds
      simp only [Actor.drainInbox]
      split_ifs
      · exact now
      · rw [← List.append_assoc]
        apply ih _ now
        intro later member
        rw [(handleMessage_same actor msg).1.spec]
        exact mail later (List.mem_cons_of_mem _ member)

theorem relocate_governed (governed : Governed M Q) {actor : Actor} (holds : Q own actor) (cellSize : Rat)
    {effects : List ActorEffect} (reported : ∀ effect ∈ effects, effect ∈ own) : Q own (relocate cellSize actor effects) := by
  induction effects generalizing actor with
  | nil => exact holds
  | cons effect rest ih =>
      have later : ∀ effect ∈ rest, effect ∈ own := fun effect member => reported effect (List.mem_cons_of_mem _ member)
      cases effect with
      | Move mover dest => exact ih (governed.moved own actor mover dest _ (reported _ List.mem_cons_self) holds) later
      | _ => exact ih holds later

theorem ticked_governed (governed : Governed M Q) {rt : ActorRuntime} {actor : Actor}
    (mail : ∀ msg ∈ rt.inboxes.pending actor.inbox, M actor.spec msg) (holds : Q own actor) (tickNum : UInt64) :
    Q (own ++ effectsOf rt tickNum actor) (ticked rt tickNum actor) := by
  have drained : Q (own ++ effectsOf rt tickNum actor) ((actor.tick tickNum).drainInbox (rt.inboxes.pending actor.inbox)).1 :=
    drainInbox_governed governed mail (governed.ticked own actor tickNum holds)
  exact relocate_governed governed drained _ fun effect member => List.mem_append_right own member

/-! ## Calls -/

theorem Governs.fewer (inv : Governs M Q log engine) (wired : Wired after.runtime)
    (actors : ∀ id actor, after.runtime.actors.lookup id = some actor → engine.runtime.actors.lookup id = some actor)
    (mail : ∀ id actor, engine.runtime.actors.lookup id = some actor →
      ∀ msg ∈ after.runtime.inboxes.pending actor.inbox,
        msg ∈ engine.runtime.inboxes.pending actor.inbox ∨ M actor.spec msg) : Governs M Q log after := by
  refine ⟨wired, fun id actor found => inv.holds id actor (actors id actor found), fun id actor found msg member => ?_⟩
  have before := actors id actor found
  exact (mail id actor before msg member).elim (inv.mail id actor before msg) fun allowed => allowed

theorem Governs.congr (inv : Governs M Q log engine) (same : after.runtime = engine.runtime) : Governs M Q log after := by
  refine ⟨same ▸ inv.wired, ?_, ?_⟩
  · rw [same]
    exact inv.holds
  · rw [same]
    exact inv.mail

theorem Governs.effected {allowed : ActorMessage → Prop} (inv : Governs M Q log engine)
    (effected : Effected allowed engine after) (fine : ∀ spec msg, allowed msg → M spec msg) : Governs M Q log after := by
  apply inv.fewer (effected.wired inv.wired)
  · intro id actor found
    rw [effected.actors] at found
    exact found
  · intro id actor found msg member
    exact (effected.pending _ msg member).imp_right (fine actor.spec msg)

theorem Governs.spawn (inv : Governs M Q log engine) (governed : Governed M Q) {spec : ActorSpec}
    (silent : effectsFrom spec.id log = []) :
    Governs M Q log { engine with runtime := (engine.runtime.spawnActor spec).2 } := by
  refine ⟨inv.wired.spawn spec, fun id actor found => ?_, fun id actor found msg member => ?_⟩
  · rcases spawnActor_either found with ⟨rfl, rfl⟩ | ⟨-, old⟩
    · rw [silent]
      exact governed.born engine.runtime spec
    · exact inv.holds id actor old
  · change msg ∈ Function.update engine.runtime.inboxes.pending engine.runtime.inboxes.next [] actor.inbox at member
    rcases spawnActor_either found with ⟨-, rfl⟩ | ⟨-, old⟩
    · have mine : (newborn engine.runtime spec).inbox = engine.runtime.inboxes.next := rfl
      rw [mine, Function.update_self] at member
      cases member
    · rw [Function.update_of_ne (inv.wired.allocated id actor old).ne] at member
      exact inv.mail id actor old msg member

theorem Governs.despawn (inv : Governs M Q log engine) (gone : ActorId) :
    Governs M Q log { engine with runtime := (engine.runtime.despawnActor gone).2 } := by
  apply inv.fewer (inv.wired.despawn gone)
  · intro id actor found
    rw [despawnActor_lookup] at found
    split_ifs at found
    exact found
  · intro id actor found msg member
    rw [despawnActor_inboxes] at member
    exact .inl member

theorem Governs.removeSession (inv : Governs M Q log engine) (session : SessionId) (despawn : Bool) :
    Governs M Q log (engine.removeSession session despawn) := by
  rcases removeSession_runtime engine session despawn with same | ⟨id, same⟩
  · exact inv.congr same
  · exact (inv.despawn id).congr same

/-! ## A tick -/

/-- What the two sides of a fight are sent is what they may get. -/
def FairCombat (M : ActorSpec → ActorMessage → Prop) (engine : WorldEngine) : Prop :=
  ∀ source target atk victim, snapshotOf engine source = some atk → snapshotOf engine target = some victim →
    atk.faction.isHostileTo victim.faction = true →
    (∀ actor, engine.runtime.actors.lookup target = some actor → M actor.spec (blow atk victim)) ∧
    ∀ actor, engine.runtime.actors.lookup source = some actor → M actor.spec (.GainXp 30)

theorem Governs.sendToActor (inv : Governs M Q log engine) (id : ActorId) {msg : ActorMessage}
    (fine : ∀ actor, engine.runtime.actors.lookup id = some actor → M actor.spec msg) :
    Governs M Q log (engine.sendToActor id msg).2 := by
  have effected := effected_sendToActor engine id msg
  apply inv.fewer (effected.wired inv.wired)
  · intro other actor found
    rw [effected.actors] at found
    exact found
  · intro other actor found sent member
    rw [pending_sendToActor inv.wired found] at member
    split_ifs at member with reached
    · rcases List.mem_append.mp member with old | new
      · exact .inl old
      · rw [List.mem_singleton.mp new]
        exact .inr (fine actor (reached.1 ▸ found))
    · exact .inl member

theorem FairCombat.congr (fair : FairCombat M engine) (prev : after.prevSnapshot = engine.prevSnapshot)
    (actors : after.runtime.actors = engine.runtime.actors) : FairCombat M after := by
  intro source target atk victim attacker attacked hostile
  rw [snapshotOf, prev] at attacker attacked
  rw [actors]
  exact fair source target atk victim attacker attacked hostile

/-- An attack does nothing, or its two sides are hostile. -/
theorem idle_or_hostile (engine : WorldEngine) (source target : ActorId) :
    engine.resolveCombat source target = engine ∨ ∃ atk victim, snapshotOf engine source = some atk ∧
      snapshotOf engine target = some victim ∧ atk.faction.isHostileTo victim.faction = true := by
  by_cases fights : ∃ atk victim, snapshotOf engine source = some atk ∧ snapshotOf engine target = some victim ∧
      atk.faction.isHostileTo victim.faction = true
  · exact .inr fights
  · left
    apply resolveCombat_idle
    intro atk victim attacker attacked
    exact Bool.eq_false_iff.mpr fun hostile => fights ⟨atk, victim, attacker, attacked, hostile⟩

theorem Governs.resolveCombat (inv : Governs M Q log engine) (fair : FairCombat M engine) (source target : ActorId) :
    Governs M Q log (engine.resolveCombat source target) := by
  rcases idle_or_hostile engine source target with idle | ⟨atk, victim, attacker, attacked, hostile⟩
  · rw [idle]
    exact inv
  · obtain ⟨struck, rewarded⟩ := fair source target atk victim attacker attacked hostile
    have first := inv.sendToActor target struck
    have second : Governs M Q log (messaged engine source target atk victim) := by
      apply first.sendToActor source
      intro actor found
      rw [(effected_sendToActor engine target (blow atk victim)).actors] at found
      exact rewarded actor found
    rw [resolveCombat_eq attacker attacked hostile]
    exact second.congr rfl

theorem Governs.effects (inv : Governs M Q log engine) (fair : FairCombat M engine) (ord : Order)
    (effects : List ActorEffect) : Governs M Q log (effects.foldl (WorldEngine.processEffect ord) engine) := by
  induction effects generalizing engine with
  | nil => exact inv
  | cons effect rest ih =>
      have frame := effected_processEffect engine ord effect
      refine ih ?_ (fair.congr frame.prevSnapshot frame.actors)
      cases effect with
      | Interact source target action =>
          simp only [WorldEngine.processEffect]
          split_ifs
          · exact inv.resolveCombat fair source target
          · exact inv
      | _ =>
          apply inv.congr
          apply processEffect_runtime
          exact not_false

theorem effectsFrom_tick {rt : ActorRuntime} (wired : Wired rt) (ord : Order) (tickNum : UInt64) (id : ActorId) :
    effectsFrom id (rt.tick ord tickNum).1 = ((rt.actors.lookup id).map (effectsOf rt tickNum)).getD [] := by
  rw [effectsFrom, (tick_spec wired ord tickNum).effects]
  apply HashMap.filter_flatMap_visit
  intro key actor found effect member
  rw [← (wired.keyed key actor found).1]
  exact drainInbox_own (actor.tick tickNum) _ effect member

theorem effectsFrom_append (id : ActorId) (early late : List ActorEffect) :
    effectsFrom id (early ++ late) = effectsFrom id early ++ effectsFrom id late := List.filter_append ..

theorem Governs.afterDrain (inv : Governs M Q log engine) (governed : Governed M Q) (ord : Order) :
    Governs M Q (log ++ (engine.runtime.tick ord (engine.tickCount + 1)).1) (afterDrain engine ord) := by
  have tick := tick_spec inv.wired ord (engine.tickCount + 1)
  refine ⟨tick.wired, fun id actor found => ?_, fun id actor found msg member => ?_⟩
  · replace found := (tick.lookup id).symm.trans found
    rw [Option.filter_eq_some_iff, Option.map_eq_some_iff] at found
    obtain ⟨⟨old, before, rfl⟩, -⟩ := found
    rw [effectsFrom_append, effectsFrom_tick inv.wired, before]
    exact ticked_governed governed (inv.mail id old before) (inv.holds id old before) _
  · replace found := (tick.lookup id).symm.trans found
    rw [Option.filter_eq_some_iff, Option.map_eq_some_iff] at found
    obtain ⟨⟨old, before, rfl⟩, -⟩ := found
    have same := afterTick_same engine.runtime.grid.cellSize (engine.tickCount + 1)
      (engine.runtime.inboxes.pending old.inbox) old
    rw [ticked, same.inbox] at member
    rw [ticked, same.spec]
    exact inv.mail id old before msg (tick.kept _ msg member)

theorem FairCombat.afterDrain (fair : FairCombat M engine) (wired : Wired engine.runtime) (ord : Order) :
    FairCombat M (afterDrain engine ord) := by
  have tick := tick_spec wired ord (engine.tickCount + 1)
  have back (id : ActorId) (actor : Actor) (found : (Engine.afterDrain engine ord).runtime.actors.lookup id = some actor) :
      ∃ old, engine.runtime.actors.lookup id = some old ∧ actor.spec = old.spec := by
    replace found := (tick.lookup id).symm.trans found
    rw [Option.filter_eq_some_iff, Option.map_eq_some_iff] at found
    obtain ⟨⟨old, before, rfl⟩, -⟩ := found
    exact ⟨old, before, (afterTick_same _ _ _ old).spec⟩
  intro source target atk victim attacker attacked hostile
  obtain ⟨struck, rewarded⟩ := fair source target atk victim attacker attacked hostile
  constructor
  · intro actor found
    obtain ⟨old, before, same⟩ := back target actor found
    rw [same]
    exact struck old before
  · intro actor found
    obtain ⟨old, before, same⟩ := back source actor found
    rw [same]
    exact rewarded old before

theorem Governs.tick (inv : Governs M Q log engine) (governed : Governed M Q) (fair : FairCombat M engine) (ord : Order)
    (clock : SessionId → UInt64) :
    Governs M Q (log ++ (engine.runtime.tick ord (engine.tickCount + 1)).1) (engine.tick ord clock) := by
  apply Governs.congr _ (finished_tick engine ord clock).runtime
  exact (inv.afterDrain governed ord).effects (fair.afterDrain inv.wired ord) ord _

end LiveWorld.Proof.Engine

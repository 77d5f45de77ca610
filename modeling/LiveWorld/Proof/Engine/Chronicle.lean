import LiveWorld.Proof.Engine.Governed
import LiveWorld.Spec.War

/-!
# Whole chronicles

What combat sends depends on the snapshot of the tick before. Its fighters are still who they were, since no id is given
twice, and a property of the actors holds of their states in the snapshot as well.
-/

namespace LiveWorld.Proof.Engine
open HashTable Spec Proof.Runtime
variable {cfg : WorldConfig} {M : ActorSpec → ActorMessage → Prop} {Q : List ActorEffect → Actor → Prop}
  {P : ActorState → Prop} {c : Chronicle}

/-- What `M` lets through in a run, apart from civil messages, are the blows and rewards of a fight between states
that `P` holds of. -/
structure Regime (M : ActorSpec → ActorMessage → Prop) (Q : List ActorEffect → Actor → Prop) (P : ActorState → Prop) :
    Prop extends Governed M Q where
  states : ∀ own actor, Q own actor → P actor.state
  loyal : ∀ own actor, Q own actor → actor.state.faction = actor.spec.faction
  civil : ∀ spec msg, Civil msg → M spec msg
  blows : ∀ atk victim spec, P atk → P victim → atk.faction.isHostileTo victim.faction = true →
    spec.faction = victim.faction → M spec (blow atk victim)
  rewards : ∀ atk victim spec, P atk → P victim → atk.faction.isHostileTo victim.faction = true →
    spec.faction = atk.faction → M spec (.GainXp 30)

/-- The snapshot of the last tick is about those who live now, or about nobody any more. -/
structure Recorded (P : ActorState → Prop) (c : Chronicle) : Prop where
  used : ∀ id ∈ c.world.engine.runtime.actors, id ∈ c.world.actorIds
  spoken : ∀ effect ∈ c.log, owner effect ∈ c.world.actorIds
  known : ∀ s ∈ c.world.engine.prevSnapshot, s.id ∈ c.world.actorIds
  states : ∀ s ∈ c.world.engine.prevSnapshot, P s
  loyal : ∀ s ∈ c.world.engine.prevSnapshot, ∀ actor, c.world.engine.runtime.actors.lookup s.id = some actor →
    s.faction = actor.spec.faction

theorem Recorded.silent (inv : Recorded P c) {id : ActorId} (fresh : id ∉ c.world.actorIds) :
    effectsFrom id c.log = [] := by
  rw [effectsFrom, List.filter_eq_nil_iff]
  intro effect member
  rw [decide_eq_true_iff]
  exact fun same => fresh (same ▸ inv.spoken effect member)

theorem snapshotOf_some {engine : WorldEngine} {id : ActorId} {s : ActorState} (found : snapshotOf engine id = some s) :
    s ∈ engine.prevSnapshot ∧ s.id = id :=
  ⟨List.mem_of_find?_eq_some found, by simpa using List.find?_some found⟩

theorem Recorded.fairCombat (inv : Recorded P c) (regime : Regime M Q P) : FairCombat M c.world.engine := by
  intro source target atk victim attacker attacked hostile
  obtain ⟨seen, rfl⟩ := snapshotOf_some attacker
  obtain ⟨seen', rfl⟩ := snapshotOf_some attacked
  have one := inv.states atk seen
  have two := inv.states victim seen'
  constructor
  · intro actor found
    exact regime.blows atk victim actor.spec one two hostile (inv.loyal victim seen' actor found).symm
  · intro actor found
    exact regime.rewards atk victim actor.spec one two hostile (inv.loyal atk seen actor found).symm

/-- A call that is no tick and sends only what may be sent. -/
theorem Governs.timeless {log : List ActorEffect} {engine : WorldEngine} (inv : Governs M Q log engine)
    (governed : Governed M Q) {call : EngineCall} (silent : ∀ spec ∈ call.spawned, effectsFrom spec.id log = [])
    (sent : ∀ spec, ∀ msg ∈ call.sent, M spec msg) (other : call.isTick = false) : Governs M Q log (call.apply engine) := by
  cases call with
  | spawnActorForSession ord spec session => exact (inv.spawn governed (silent spec rfl)).congr rfl
  | spawnActorStandalone spec => exact inv.spawn governed (silent spec rfl)
  | removeSession session despawn => exact inv.removeSession session despawn
  | despawnActor id => exact (inv.despawn id).congr rfl
  | send handle msg =>
      apply inv.effected (effected_send engine handle msg)
      exact fun spec other equal => sent spec other (congrArg some equal.symm)
  | applyDirective directive => exact inv.effected (effected_applyDirective engine directive) sent
  | broadcastWorldEvent message => exact inv.congr rfl
  | drainSession session => exact inv.congr (drainSession_runtime engine session)
  | tick ord clock => cases other

theorem Governs.call (inv : Governs M Q c.log c.world.engine) (regime : Regime M Q P) (recorded : Recorded P c)
    {call : EngineCall} (allowed : c.Allowed call) : Governs M Q (c.next call).log (c.next call).world.engine := by
  cases ticks : call.isTick with
  | true =>
      cases call with
      | tick ord clock => exact inv.tick regime.toGoverned (recorded.fairCombat regime) ord clock
      | _ => cases ticks
  | false =>
      have quiet : (c.next call).log = c.log := by
        cases call with
        | tick => cases ticks
        | _ => exact List.append_nil _
      rw [quiet]
      apply inv.timeless regime.toGoverned _ _ ticks
      · exact fun spec spawned => recorded.silent (allowed.1 spec spawned)
      · exact fun spec msg sent => regime.civil spec msg (allowed.2 msg sent)

theorem spec_call {engine : WorldEngine} {id : ActorId} {actor : Actor} (call : EngineCall)
    (found : (call.apply engine).runtime.actors.lookup id = some actor) :
    (∃ old, engine.runtime.actors.lookup id = some old ∧ actor.spec = old.spec) ∨
      ∃ spec ∈ call.spawned, spec.id = id ∧ actor.spec = spec := by
  have spawned {spec : ActorSpec} (found : (engine.runtime.spawnActor spec).2.actors.lookup id = some actor) :
      (∃ old, engine.runtime.actors.lookup id = some old ∧ actor.spec = old.spec) ∨
        spec.id = id ∧ actor.spec = spec := by
    rcases spawnActor_either found with ⟨same, rfl⟩ | ⟨-, old⟩
    · exact .inr ⟨same.symm, rfl⟩
    · exact .inl ⟨actor, old, rfl⟩
  have despawned {gone : ActorId} (found : (engine.runtime.despawnActor gone).2.actors.lookup id = some actor) :
      engine.runtime.actors.lookup id = some actor := by
    rw [despawnActor_lookup] at found
    split_ifs at found
    exact found
  cases call with
  | spawnActorForSession ord spec session => exact (spawned found).imp_right fun same => ⟨spec, rfl, same⟩
  | spawnActorStandalone spec => exact (spawned found).imp_right fun same => ⟨spec, rfl, same⟩
  | removeSession session despawn =>
      rw [EngineCall.apply] at found
      refine .inl ⟨actor, ?_, rfl⟩
      rcases removeSession_runtime engine session despawn with same | ⟨gone, same⟩
      · rw [same] at found
        exact found
      · rw [same] at found
        exact despawned found
  | despawnActor gone => exact .inl ⟨actor, despawned found, rfl⟩
  | send handle msg => exact .inl ⟨actor, found, rfl⟩
  | applyDirective directive =>
      rw [EngineCall.apply, (effected_applyDirective engine directive).actors] at found
      exact .inl ⟨actor, found, rfl⟩
  | broadcastWorldEvent message => exact .inl ⟨actor, found, rfl⟩
  | drainSession session =>
      rw [EngineCall.apply, drainSession_runtime] at found
      exact .inl ⟨actor, found, rfl⟩
  | tick ord clock =>
      left
      have lasting : Lasting fun id later => ∃ old, engine.runtime.actors.lookup id = some old ∧ later.spec = old.spec := by
        refine ⟨fun _ _ _ kept => kept, fun id later msg kept => ?_, fun _ _ _ _ kept => kept⟩
        rw [(handleMessage_same later msg).1.spec]
        exact kept
      exact all_engineTick lasting (fun id actor found => ⟨actor, found, rfl⟩) ord clock id actor found

theorem recorded_start (cfg : WorldConfig) : Recorded P (Chronicle.start cfg) := by
  refine ⟨fun id live => ?_, fun effect member => ?_, fun s member => ?_, fun s member => ?_, fun s member => ?_⟩
  · exact absurd live (AList.notMem_empty id)
  · cases member
  · cases member
  · cases member
  · cases member

theorem owner_reported {engine : WorldEngine} (wired : Wired engine.runtime) (call : EngineCall) :
    ∀ effect ∈ Chronicle.reported engine call, owner effect ∈ engine.runtime.actors := by
  cases call with
  | tick ord clock =>
      intro effect member
      have own : effect ∈ effectsFrom (owner effect) (engine.runtime.tick ord (engine.tickCount + 1)).1 :=
        List.mem_filter.mpr ⟨member, decide_eq_true rfl⟩
      rw [effectsFrom_tick wired] at own
      cases found : engine.runtime.actors.lookup (owner effect) with
      | none =>
          rw [found] at own
          cases own
      | some actor => exact HashMap.mem_of_lookup found
  | _ => exact fun effect member => absurd member List.not_mem_nil

theorem Recorded.call (inv : Recorded P c) (regime : Regime M Q P) (governs : Governs M Q c.log c.world.engine)
    {call : EngineCall} (allowed : c.Allowed call) : Recorded P (c.next call) := by
  have grown : ∀ id ∈ c.world.actorIds, id ∈ (c.next call).world.actorIds :=
    fun id member => List.mem_append_right _ member
  have used : ∀ id ∈ (c.next call).world.engine.runtime.actors, id ∈ (c.next call).world.actorIds := by
    intro id live
    rcases mem_call call live with old | ⟨spec, spawned, rfl⟩
    · exact grown id (inv.used id old)
    · refine List.mem_append_left _ ?_
      rw [Option.mem_toList]
      exact Option.mem_map_of_mem _ spawned
  have spoken : ∀ effect ∈ (c.next call).log, owner effect ∈ (c.next call).world.actorIds := by
    intro effect member
    rcases List.mem_append.mp member with old | new
    · exact grown _ (inv.spoken effect old)
    · exact grown _ (inv.used _ (owner_reported governs.wired call effect new))
  have after := governs.call regime inv allowed
  cases ticks : call.isTick with
  | false =>
      have prev : (c.next call).world.engine.prevSnapshot = c.world.engine.prevSnapshot := prevSnapshot_call call ticks
      refine ⟨used, spoken, fun s member => ?_, fun s member => ?_, fun s member actor found => ?_⟩
      · rw [prev] at member
        exact grown _ (inv.known s member)
      · rw [prev] at member
        exact inv.states s member
      · rw [prev] at member
        rcases spec_call call found with ⟨old, before, same⟩ | ⟨spec, spawned, same, -⟩
        · rw [same]
          exact inv.loyal s member old before
        · exact absurd (same ▸ inv.known s member) (allowed.1 spec spawned)
  | true =>
      cases call with
      | tick ord clock =>
          have prev : (c.next (.tick ord clock)).world.engine.prevSnapshot =
              (c.next (.tick ord clock)).world.engine.runtime.snapshotAll ord := by
            have finished := finished_tick c.world.engine ord clock
            exact finished.prevSnapshot.trans (congrArg (ActorRuntime.snapshotAll · ord) finished.runtime.symm)
          have alive : ∀ s ∈ (c.next (.tick ord clock)).world.engine.prevSnapshot, ∃ actor,
              (c.next (.tick ord clock)).world.engine.runtime.actors.lookup s.id = some actor ∧ s = actor.state := by
            intro s member
            rw [prev] at member
            obtain ⟨id, actor, found, rfl⟩ := mem_snapshot.mp member
            rw [(after.wired.keyed id actor found).2]
            exact ⟨actor, found, rfl⟩
          refine ⟨used, spoken, fun s member => ?_, fun s member => ?_, fun s member actor found => ?_⟩
          · obtain ⟨actor, found, -⟩ := alive s member
            exact used _ (HashMap.mem_of_lookup found)
          · obtain ⟨actor, found, same⟩ := alive s member
            rw [same]
            exact regime.states _ actor (after.holds _ actor found)
          · obtain ⟨actor', found', same⟩ := alive s member
            obtain rfl := Option.some.inj (found'.symm.trans found)
            rw [same]
            exact regime.loyal _ actor' (after.holds _ actor' found')
      | _ => cases ticks

theorem Regime.reachable (regime : Regime M Q P) (reachable : ChronicleReachable cfg c) :
    Governs M Q c.log c.world.engine ∧ Recorded P c := by
  induction reachable with
  | start first =>
      subst first
      exact ⟨governs_new cfg, recorded_start cfg⟩
  | step before allowed moved ih =>
      cases moved
      exact ⟨ih.1.call regime ih.2 allowed, ih.2.call regime ih.1 allowed⟩

theorem effectsFrom_next (wired : Wired c.world.engine.runtime) (call : EngineCall) (id : ActorId) :
    effectsFrom id (c.next call).log = effectsFrom id c.log ∨ ∃ actor tickNum,
      c.world.engine.runtime.actors.lookup id = some actor ∧
      effectsFrom id (c.next call).log = effectsFrom id c.log ++ effectsOf c.world.engine.runtime tickNum actor := by
  cases call with
  | tick ord clock =>
      rw [Chronicle.next, Chronicle.reported, effectsFrom_append, effectsFrom_tick wired]
      cases found : c.world.engine.runtime.actors.lookup id with
      | none => exact .inl (List.append_nil _)
      | some actor => exact .inr ⟨actor, _, rfl, rfl⟩
  | _ => exact .inl (congrArg (effectsFrom id) (List.append_nil _))

/-- What the actors report holds of those who are gone, too. -/
theorem Regime.reports {R : ActorId → List ActorEffect → Prop} (regime : Regime M Q P) (nothing : ∀ id, R id [])
    (reports : ∀ own actor, Q own actor → R actor.spec.id own) (reachable : ChronicleReachable cfg c) (id : ActorId) :
    R id (effectsFrom id c.log) := by
  induction reachable with
  | start first =>
      subst first
      exact nothing id
  | @step s _ call before allowed moved ih =>
      cases moved
      obtain ⟨governs, -⟩ := regime.reachable before
      rcases effectsFrom_next governs.wired call id with same | ⟨actor, tickNum, found, same⟩
      · rw [same]
        exact ih
      · rw [same]
        have now := ticked_governed regime.toGoverned (governs.mail id actor found) (governs.holds id actor found) tickNum
        have mine : (ticked s.world.engine.runtime tickNum actor).spec.id = id := by
          rw [ticked, (afterTick_same _ _ _ actor).spec]
          exact (governs.wired.keyed id actor found).1
        have told := reports _ _ now
        rw [mine] at told
        exact told

end LiveWorld.Proof.Engine

import LiveWorld.Proof.Engine.Calls
import LiveWorld.Proof.Engine.Capture
import LiveWorld.Spec.Attack

/-!
# When an attack is all or nothing

`resolve_combat` does not look at whether its messages were delivered, so the four things it does come apart whenever
one of the two inboxes cannot be reached.
-/

namespace LiveWorld.Proof.Engine
open HashTable Spec Proof.Runtime
variable {engine : WorldEngine} {source target : ActorId} {atk victim : ActorState}

/-! ## Equations -/

theorem sendToActor_eq (engine : WorldEngine) (id : ActorId) (msg : ActorMessage) :
    ∃ runtime, (engine.sendToActor id msg).2 = { engine with runtime } := by
  unfold WorldEngine.sendToActor
  cases engine.runtime.handle id with
  | some handle => exact ⟨_, rfl⟩
  | none => exact ⟨engine.runtime, rfl⟩

theorem shiftTerritory_setRuntime (engine : WorldEngine) (runtime : ActorRuntime) (zone : ZoneId) (winner : Faction) :
    { engine with runtime }.shiftTerritory zone winner = { engine.shiftTerritory zone winner with runtime } := by
  unfold WorldEngine.shiftTerritory
  split_ifs
  · rfl
  · rfl
  · simp only
    split_ifs <;> rfl

abbrev blow (atk victim : ActorState) : ActorMessage :=
  .TakeDamage (WorldEngine.attackDamage atk.level victim.level) atk.name

/-- The engine after both messages were sent. -/
def messaged (engine : WorldEngine) (source target : ActorId) (atk victim : ActorState) : WorldEngine :=
  ((engine.sendToActor target (blow atk victim)).2.sendToActor source (.GainXp 30)).2

theorem resolveCombat_eq (attacker : snapshotOf engine source = some atk) (attacked : snapshotOf engine target = some victim)
    (hostile : atk.faction.isHostileTo victim.faction = true) :
    engine.resolveCombat source target =
      { (engine.shiftTerritory (zoneOf atk.position) atk.faction).broadcastWorldEvent (strikeText atk victim) with
        runtime := (messaged engine source target atk victim).runtime } := by
  unfold snapshotOf at attacker attacked
  unfold WorldEngine.resolveCombat
  simp only [attacker, attacked, hostile, Bool.not_true, Bool.false_eq_true, if_false]
  have both : messaged engine source target atk victim =
      { engine with runtime := (messaged engine source target atk victim).runtime } := by
    unfold messaged
    obtain ⟨struck, one⟩ := sendToActor_eq engine target (blow atk victim)
    obtain ⟨rewarded, two⟩ := sendToActor_eq { engine with runtime := struck } source (.GainXp 30)
    rw [one, two]
  change (WorldEngine.shiftTerritory (messaged engine source target atk victim) _ _).broadcastWorldEvent _ = _
  rw [both, shiftTerritory_setRuntime]
  rfl

theorem resolveCombat_idle (none : ∀ atk victim, snapshotOf engine source = some atk →
    snapshotOf engine target = some victim → atk.faction.isHostileTo victim.faction = false) :
    engine.resolveCombat source target = engine := by
  unfold snapshotOf at none
  unfold WorldEngine.resolveCombat
  cases attacker : engine.prevSnapshot.find? fun s => s.id = source with
  | none => rfl
  | some atk =>
      cases attacked : engine.prevSnapshot.find? fun s => s.id = target with
      | none => rfl
      | some victim => simp [none atk victim attacker attacked]

/-! ## The inboxes -/

/-- What `ref` gets of a message to `id`. -/
def received (engine : WorldEngine) (id : ActorId) (msg : ActorMessage) (ref : QueueRef) : List ActorMessage :=
  match engine.runtime.handle id with
  | some handle =>
      if ref = handle.sender ∧ (engine.runtime.inboxes.pending ref).length < queueSize - 1 then [msg] else []
  | none => []

theorem pending_received (engine : WorldEngine) (id : ActorId) (msg : ActorMessage) (ref : QueueRef) :
    (engine.sendToActor id msg).2.runtime.inboxes.pending ref =
      engine.runtime.inboxes.pending ref ++ received engine id msg ref := by
  unfold WorldEngine.sendToActor received
  cases engine.runtime.handle id with
  | none => exact (List.append_nil _).symm
  | some handle =>
      refine (pending_send handle engine.runtime.inboxes msg ref).trans ?_
      split_ifs with reached
      · simp only [if_pos reached]
      · simp only [if_neg reached, List.append_nil]

theorem received_eq_nil_iff {id : ActorId} (msg : ActorMessage) :
    (∀ ref, received engine id msg ref = []) ↔ ¬TakesMail engine id := by
  unfold received TakesMail
  cases held : engine.runtime.handle id with
  | none => simp
  | some handle =>
      constructor
      · rintro nothing ⟨other, same, room⟩
        cases same
        have here := nothing handle.sender
        simp only [true_and] at here
        rw [if_pos room] at here
        cases here
      · intro full ref
        refine if_neg fun reached => full ⟨handle, rfl, ?_⟩
        rw [← reached.1]
        exact reached.2

theorem sender_ne (inv : Wired engine.runtime) (different : source ≠ target) {mine yours : ActorHandle}
    (held : engine.runtime.handle source = some mine) (held' : engine.runtime.handle target = some yours) :
    mine.sender ≠ yours.sender := by
  obtain ⟨one, found⟩ := HashMap.lookup_of_mem ((inv.sameKeys source).mpr (HashMap.mem_of_lookup held))
  obtain ⟨two, found'⟩ := HashMap.lookup_of_mem ((inv.sameKeys target).mpr (HashMap.mem_of_lookup held'))
  rw [inv.feeds source one mine found held, inv.feeds target two yours found' held']
  exact fun same => different (inv.ownInbox source target one two found found' same)

theorem different_fighters (attacker : snapshotOf engine source = some atk)
    (attacked : snapshotOf engine target = some victim) (hostile : atk.faction.isHostileTo victim.faction = true) :
    source ≠ target := by
  rintro rfl
  rw [attacker] at attacked
  cases attacked
  cases faction : atk.faction <;> simp [faction, Faction.isHostileTo] at hostile

theorem received_elsewhere (inv : Wired engine.runtime) (different : source ≠ target) {handle : ActorHandle}
    (held : engine.runtime.handle target = some handle) (msg : ActorMessage) :
    received engine source msg handle.sender = [] := by
  unfold received
  cases held' : engine.runtime.handle source with
  | none => rfl
  | some mine => exact if_neg fun reached => sender_ne inv different held' held reached.1.symm

theorem pending_messaged (inv : Wired engine.runtime) (different : source ≠ target) (atk victim : ActorState)
    (ref : QueueRef) :
    (messaged engine source target atk victim).runtime.inboxes.pending ref =
      engine.runtime.inboxes.pending ref ++ received engine target (blow atk victim) ref ++
        received engine source (.GainXp 30) ref := by
  have unaffected : received (engine.sendToActor target (blow atk victim)).2 source (.GainXp 30) ref =
      received engine source (.GainXp 30) ref := by
    unfold received ActorRuntime.handle
    rw [(effected_sendToActor engine target (blow atk victim)).handles]
    cases held : engine.runtime.handles.lookup source with
    | none => rfl
    | some mine =>
        by_cases here : ref = mine.sender
        · subst here
          rw [pending_received, received_elsewhere inv different.symm held, List.append_nil]
        · simp only [here, false_and]
  unfold messaged
  rw [pending_received, pending_received, unaffected]

/-- A message is delivered if its receiver has room and the other message goes elsewhere. -/
theorem delivered_iff {after : WorldEngine} {id : ActorId} {msg : ActorMessage}
    (pending : ∀ handle, engine.runtime.handle id = some handle →
      after.runtime.inboxes.pending handle.sender =
        engine.runtime.inboxes.pending handle.sender ++ received engine id msg handle.sender) :
    Delivered engine after id msg ↔ TakesMail engine id := by
  refine exists_congr fun handle => and_congr_right fun held => ?_
  rw [pending handle held, received, held]
  simp only [true_and, List.append_cancel_left_eq]
  split_ifs with room
  · exact iff_of_true rfl room
  · exact iff_of_false (fun gone => gone) room

/-! ## Territory and queues -/

theorem shiftTerritory_idle {zone : ZoneId} {winner : Faction}
    (owned : (engine.territory.lookup zone).getD .Neutral = winner) : engine.shiftTerritory zone winner = engine := by
  unfold WorldEngine.shiftTerritory
  rw [if_pos owned, ite_self]

/-- Whoever wins in a zone of somebody else leaves a trace there. -/
theorem shiftTerritory_trace {zone : ZoneId} {winner : Faction} (faction : winner ≠ .Neutral)
    (rival : (engine.territory.lookup zone).getD .Neutral ≠ winner)
    (territory : (engine.shiftTerritory zone winner).territory = engine.territory) :
    (engine.shiftTerritory zone winner).zonePressure ≠ engine.zonePressure := by
  intro same
  have moved := shifted engine zone winner
  generalize engine.shiftTerritory zone winner = after at moved territory same
  cases moved with
  | passed reason =>
      rcases reason with neutral | owned
      · exact faction neutral
      · exact rival owned
  | captured _ _ _ _ inserted =>
      refine rival ?_
      rw [← territory, inserted, AList.lookup_insert]
      rfl
  | @pushed _ points _ _ found _ _ inserted =>
      rw [← same, inserted, AList.lookup_insert] at found
      have points := congrArg (fun entry => (entry.getD (winner, 0)).2.toNat) found
      simp only [Option.getD_some, UInt8.toNat_add] at points
      change (_ + 1) % 2 ^ 8 = _ at points
      omega
  | started _ _ fresh _ inserted =>
      refine fresh 1 ?_
      rw [← same, inserted, AList.lookup_insert]

theorem broadcast_idle_iff (message : String) :
    (engine.broadcastWorldEvent message).sessionQueues = engine.sessionQueues ↔
      ∀ session queue, engine.sessionQueues.lookup session = some queue → 64 ≤ queue.length := by
  refine (HashMap.mapValues_eq_self_iff _ _).trans ?_
  refine forall_congr' fun session => forall_congr' fun queue => imp_congr_right fun _ => ?_
  unfold WorldEngine.offerEvent
  split_ifs with room
  · exact iff_of_false (by simp) (by omega)
  · exact iff_of_true rfl (by omega)

/-! ## All or nothing -/

/-- What `resolve_combat` does between enemies, one thing at a time. -/
structure Resolved (engine after : WorldEngine) (source target : ActorId) (atk victim : ActorState) : Prop where
  struck : Delivered engine after target (blow atk victim) ↔ TakesMail engine target
  rewarded : Delivered engine after source (.GainXp 30) ↔ TakesMail engine source
  inboxes : (∀ ref, after.runtime.inboxes.pending ref = engine.runtime.inboxes.pending ref) ↔
    ¬TakesMail engine target ∧ ¬TakesMail engine source
  territory : after.territory = (engine.shiftTerritory (zoneOf atk.position) atk.faction).territory
  zonePressure : after.zonePressure = (engine.shiftTerritory (zoneOf atk.position) atk.faction).zonePressure
  announced : after.sessionQueues =
    ((engine.shiftTerritory (zoneOf atk.position) atk.faction).broadcastWorldEvent (strikeText atk victim)).sessionQueues

theorem resolved (inv : Wired engine.runtime) (attacker : snapshotOf engine source = some atk)
    (attacked : snapshotOf engine target = some victim) (hostile : atk.faction.isHostileTo victim.faction = true) :
    Resolved engine (engine.resolveCombat source target) source target atk victim := by
  have different := different_fighters attacker attacked hostile
  have equation := resolveCombat_eq attacker attacked hostile
  have pending (ref : QueueRef) : (engine.resolveCombat source target).runtime.inboxes.pending ref =
      engine.runtime.inboxes.pending ref ++ received engine target (blow atk victim) ref ++
        received engine source (.GainXp 30) ref := by
    rw [equation]
    exact pending_messaged inv different atk victim ref
  refine ⟨delivered_iff fun handle held => ?_, delivered_iff fun handle held => ?_, ?_, ?_, ?_, ?_⟩
  · rw [pending, received_elsewhere inv different held, List.append_nil]
  · rw [pending, received_elsewhere inv different.symm held, List.append_nil]
  · rw [← received_eq_nil_iff (blow atk victim), ← received_eq_nil_iff (.GainXp 30), ← forall_and]
    refine forall_congr' fun ref => ?_
    rw [pending, List.append_assoc, List.append_right_eq_self, List.append_eq_nil_iff]
  · rw [equation]
    rfl
  · rw [equation]
    rfl
  · rw [equation]

theorem obstructed_of_unreached (inv : Wired engine.runtime) (unreached : ¬TakesMail engine target) :
    Obstructed engine source target := by
  by_cases live : target ∈ engine.runtime.actors
  · obtain ⟨handle, held⟩ := HashMap.lookup_of_mem ((inv.sameKeys target).mp live)
    exact .full ⟨handle, held, not_lt.mp fun room => unreached ⟨handle, held, room⟩⟩
  · exact .goneTarget live

theorem hostile_faction (hostile : atk.faction.isHostileTo victim.faction = true) : atk.faction ≠ .Neutral := by
  intro neutral
  rw [neutral] at hostile
  cases hostile

theorem untouched_iff {after : WorldEngine} (done : Resolved engine after source target atk victim)
    (hostile : atk.faction.isHostileTo victim.faction = true) :
    Untouched engine after ↔ ¬TakesMail engine target ∧ ¬TakesMail engine source ∧ Unnoticed engine atk := by
  constructor
  · intro untouched
    obtain ⟨full, full'⟩ := done.inboxes.mp untouched.inboxes
    have owned : (engine.territory.lookup (zoneOf atk.position)).getD .Neutral = atk.faction := by
      by_contra rival
      exact shiftTerritory_trace (hostile_faction hostile) rival (done.territory.symm.trans untouched.territory)
        (done.zonePressure.symm.trans untouched.zonePressure)
    refine ⟨full, full', owned, (broadcast_idle_iff (strikeText atk victim)).mp ?_⟩
    rw [← untouched.sessionQueues, done.announced, shiftTerritory_idle owned]
  · rintro ⟨full, full', owned, deaf⟩
    have idle : engine.shiftTerritory (zoneOf atk.position) atk.faction = engine := shiftTerritory_idle owned
    refine ⟨done.inboxes.mpr ⟨full, full'⟩, ?_, ?_, ?_⟩
    · rw [done.territory, idle]
    · rw [done.zonePressure, idle]
    · rw [done.announced, idle]
      exact (broadcast_idle_iff _).mpr deaf

theorem allOrNothing_iff (inv : Wired engine.runtime) :
    AllOrNothing engine source target ↔ Undivided engine source target := by
  by_cases enemies : ∃ atk victim, snapshotOf engine source = some atk ∧ snapshotOf engine target = some victim ∧
      atk.faction.isHostileTo victim.faction = true
  · obtain ⟨atk, victim, attacker, attacked, hostile⟩ := enemies
    have done := resolved inv attacker attacked hostile
    constructor
    · intro either mine yours found found' _
      cases attacker.symm.trans found
      cases attacked.symm.trans found'
      rcases either with ⟨_, _, same, same', fought⟩ | ⟨-, untouched⟩
      · cases attacker.symm.trans same
        cases attacked.symm.trans same'
        exact .inl ⟨done.struck.mp fought.struck, done.rewarded.mp fought.rewarded⟩
      · exact .inr ((untouched_iff done hostile).mp untouched)
    · intro undivided
      rcases undivided atk victim attacker attacked hostile with ⟨room, room'⟩ | unnoticed
      · exact .inl ⟨atk, victim, attacker, attacked, done.struck.mpr room, done.rewarded.mpr room', done.territory,
          done.zonePressure, done.announced⟩
      · exact .inr ⟨obstructed_of_unreached inv unnoticed.1, (untouched_iff done hostile).mpr unnoticed⟩
  · push Not at enemies
    have peaceful : ∀ atk victim, snapshotOf engine source = some atk → snapshotOf engine target = some victim →
        atk.faction.isHostileTo victim.faction = false :=
      fun atk victim found found' => Bool.eq_false_iff.mpr (enemies atk victim found found')
    refine iff_of_true (.inr ⟨?_, ?_⟩) fun atk victim found found' hostile => absurd hostile (enemies atk victim found found')
    · cases attacker : snapshotOf engine source with
      | none => exact .unknownSource attacker
      | some atk =>
          cases attacked : snapshotOf engine target with
          | none => exact .unknownTarget attacked
          | some victim => exact .peaceful atk victim attacker attacked (peaceful atk victim attacker attacked)
    · rw [resolveCombat_idle peaceful]
      exact ⟨fun _ => rfl, rfl, rfl, rfl⟩

theorem wired_world {cfg : WorldConfig} {allowed : World → EngineCall → Prop} {w : World}
    (reachable : WorldReachable cfg allowed w) : Wired w.engine.runtime := by
  induction reachable with
  | start first =>
      rw [first]
      exact (consistent_new cfg).toWired
  | @step _ _ call _ _ moved ih =>
      cases moved
      exact wired_call call ih

/-- An attack is all or nothing exactly when both fighters can be reached, or neither and nobody notices. -/
theorem all_or_nothing_iff (cfg : WorldConfig) (w : World) (reachable : WorldReachable cfg (fun _ _ => True) w)
    (ord : Order) (attack : Attack w.engine ord) :
    AllOrNothing attack.before attack.source attack.target ↔ Undivided attack.before attack.source attack.target := by
  have ticked : Wired (afterDrain w.engine ord).runtime := (tick_spec (wired_world reachable) ord _).wired
  have before : Effected Combat (afterDrain w.engine ord) attack.before := effected_effects _ _ _
  exact allOrNothing_iff (before.wired ticked)

/-! ## A fight and a target that has left -/

def fighter (id : UInt64) (faction : Faction) : ActorSpec := { villager id ⟨500, 500⟩ with faction }

-- both are in the snapshot when the attack is sent
def ambushCalls (last : List EngineCall) : List EngineCall :=
  [.spawnActorStandalone (fighter 1 .Empire), .spawnActorStandalone (fighter 2 .Alliance), .tick .stored fun _ => 0,
    .send ⟨⟨1⟩, 0⟩ (.Interact ⟨2⟩ "ATTACK")] ++ last

def ambush (last : List EngineCall) : World := (ambushCalls last).foldl World.next (World.start .default)

theorem ambush_reachable (last : List EngineCall) : WorldReachable .default (fun _ _ => True) (ambush last) :=
  Transition.Reachable.foldl (.start rfl) (Transition.respects_of_forall (fun _ _ => trivial) _ _)

def assault (last : List EngineCall)
    (processed : ((ambush last).engine.runtime.tick .stored ((ambush last).engine.tickCount + 1)).1 =
      [.Interact ⟨1⟩ ⟨2⟩ "ATTACK"]) : Attack (ambush last).engine .stored :=
  ⟨⟨1⟩, ⟨2⟩, [], [], processed⟩

theorem all_or_nothing_between_two :
    let attack := assault [] (by decide +kernel)
    TakesMail attack.before ⟨2⟩ ∧ AllOrNothing attack.before ⟨1⟩ ⟨2⟩ := by
  intro attack
  have target : TakesMail attack.before ⟨2⟩ := by decide +kernel
  have source : TakesMail attack.before ⟨1⟩ := by decide +kernel
  refine ⟨target, (all_or_nothing_iff .default _ (ambush_reachable []) .stored attack).mpr ?_⟩
  exact fun _ _ _ _ _ => .inl ⟨target, source⟩

theorem strike_at_nobody :
    ¬∀ w, WorldReachable .default (fun _ _ => True) w → ∀ ord (attack : Attack w.engine ord),
      AllOrNothing attack.before attack.source attack.target := by
  intro claim
  let attack := assault [.despawnActor ⟨2⟩] (by decide +kernel)
  have ticked : Wired (afterDrain (ambush [.despawnActor ⟨2⟩]).engine .stored).runtime :=
    (tick_spec (wired_world (ambush_reachable _)) .stored _).wired
  have undivided := (allOrNothing_iff ticked).mp (claim _ (ambush_reachable _) .stored attack)
  have known : (snapshotOf attack.before ⟨1⟩).map ActorState.faction = some .Empire ∧
      (snapshotOf attack.before ⟨2⟩).map ActorState.faction = some .Alliance := by decide +kernel
  obtain ⟨atk, attacker, empire⟩ := Option.map_eq_some_iff.mp known.1
  obtain ⟨victim, attacked, alliance⟩ := Option.map_eq_some_iff.mp known.2
  have hostile : atk.faction.isHostileTo victim.faction = true := by
    rw [empire, alliance]
    rfl
  have source : TakesMail attack.before ⟨1⟩ := by decide +kernel
  have target : ¬TakesMail attack.before ⟨2⟩ := by decide +kernel
  rcases undivided atk victim attacker attacked hostile with both | neither
  · exact target both.1
  · exact neither.2.1 source

end LiveWorld.Proof.Engine

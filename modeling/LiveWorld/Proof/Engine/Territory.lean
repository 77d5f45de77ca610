import LiveWorld.Proof.Engine.Feed

/-!
# When client and server agree on territory

The client reads the owners off the texts of the events. It agrees as long as it gets the text of every capture, and
no other text that reads like one.
-/

namespace LiveWorld.Proof.Engine
open HashTable Spec Spectator
variable {engine after : WorldEngine} {session : SessionId} {ord : Order} {clock : SessionId → UInt64} {s : Spectator}
variable {territory : HashMap ZoneId Faction} {table : Client.Territory} {queue : SessionQueue}

/-! ## Texts -/

theorem capture_text (zone : ZoneId) (winner : Faction) :
    Client.capture (News.capture zone winner).text = some (winner.debug, zone) := by
  cases zone <;> cases winner <;> decide +kernel

theorem capture_eq_none {c : Char} {rest : List Char} {message : String} (other : c ≠ '🏴')
    (chars : message.toList = c :: rest) : Client.capture message = none := by
  have stripped : Client.stripPrefix "🏴 ".toList message.toList = none := by
    rw [chars]
    exact if_neg fun same => other same.symm
  rw [Client.capture, Client.matchCapture, stripped]
  rfl

theorem capture_strike (atk victim : ActorState) : Client.capture (strike atk victim) = none :=
  capture_eq_none (by decide : '⚔' ≠ '🏴') (by simp only [strike, String.toList_append]; rfl)

/-! ## One queue -/

/-- The table has the owners of the territory. -/
def Shows (territory : HashMap ZoneId Faction) (table : Client.Territory) : Prop :=
  ∀ zone, (territory.lookup zone).map Faction.debug = some (table zone)

def drainInto (table : Client.Territory) (queue : SessionQueue) : Client.Territory :=
  queue.foldl Client.handleFrame table

theorem drainInto_append (table : Client.Territory) (early late : SessionQueue) :
    drainInto table (early ++ late) = drainInto (drainInto table early) late :=
  List.foldl_append

theorem handleWorldEvent_none {message : String} (plain : Client.capture message = none) :
    Client.handleWorldEvent table message = table := by
  rw [Client.handleWorldEvent, plain]

theorem Shows.event (shows : Shows territory (drainInto table queue)) {message : String}
    (truthful : queue.length < 64 → ∀ name zone, Client.capture message = some (name, zone) →
      (territory.lookup zone).map Faction.debug = some name) :
    Shows territory (drainInto table (WorldEngine.offerEvent message queue)) := by
  unfold WorldEngine.offerEvent
  split_ifs with room
  · rw [drainInto_append]
    change Shows territory (Client.handleWorldEvent (drainInto table queue) message)
    unfold Client.handleWorldEvent
    cases read : Client.capture message with
    | none => exact shows
    | some pair =>
        obtain ⟨name, zone⟩ := pair
        intro other
        simp only [Function.update_apply]
        split_ifs with same
        · subst same
          exact truthful room name other read
        · exact shows other
  · exact shows

theorem Shows.plain (shows : Shows territory (drainInto table queue)) {message : String}
    (plain : Client.capture message = none) :
    Shows territory (drainInto table (WorldEngine.offerEvent message queue)) := by
  refine shows.event fun _ name zone read => ?_
  rw [plain] at read
  cases read

theorem Shows.capture (shows : Shows territory (drainInto table queue)) (zone : ZoneId) (winner : Faction)
    (room : queue.length < 64) :
    Shows (territory.insert zone winner)
      (drainInto table (WorldEngine.offerEvent (News.capture zone winner).text queue)) := by
  rw [WorldEngine.offerEvent, if_pos room, drainInto_append]
  change Shows _ (Client.handleWorldEvent (drainInto table queue) (News.capture zone winner).text)
  rw [Client.handleWorldEvent, capture_text]
  intro other
  simp only [Function.update_apply, HashMap.lookup_insert_eq]
  split_ifs
  · rfl
  · exact shows other

theorem drainInto_tail {queue : SessionQueue} (plain : ∀ message, queue.head? = some (.WorldEvent message) →
    Client.capture message = none) (table : Client.Territory) : drainInto table queue.tail = drainInto table queue := by
  cases queue with
  | nil => rfl
  | cons frame rest =>
      cases frame with
      | Delta delta => rfl
      | WorldEvent message =>
          change drainInto table rest = drainInto (Client.handleWorldEvent table message) rest
          rw [handleWorldEvent_none (plain message rfl)]

theorem drainInto_pushDelta {queue : SessionQueue} (delta : StateDelta) (plain : 32 ≤ queue.length →
    ∀ message, queue.head? = some (.WorldEvent message) → Client.capture message = none) (table : Client.Territory) :
    drainInto table (WorldEngine.pushDelta delta queue) = drainInto table queue := by
  rw [WorldEngine.pushDelta, drainInto_append]
  change drainInto table _ = _
  split_ifs with crowded
  · exact drainInto_tail (plain crowded) table
  · rfl

/-! ## One effect -/

/-- Once it has drained its queue, the client shows the territory of the engine. -/
def Seen (session : SessionId) (engine : WorldEngine) (table : Client.Territory) : Prop :=
  ∀ queue, engine.sessionQueues.lookup session = some queue → Shows engine.territory (drainInto table queue)

theorem Seen.told {news : List News} (seen : Seen session engine table) (told : Told news engine after)
    (kept : ∀ queue, engine.sessionQueues.lookup session = some queue →
      Shows engine.territory (drainInto table queue) →
      Shows (news.foldl News.settle engine.territory) (drainInto table (offerAll queue news))) :
    Seen session after table := by
  intro queue queued
  rw [told.queues, Option.map_eq_some_iff] at queued
  obtain ⟨before, there, rfl⟩ := queued
  rw [told.territory]
  exact kept before there (seen before there)

theorem Seen.plain (seen : Seen session engine table) {message : String}
    (told : Told [.event message] engine after) (plain : Client.capture message = none) : Seen session after table :=
  seen.told told fun _ _ shows => shows.plain plain

theorem captures_iff {source target : ActorId} {atk victim : ActorState}
    (first : (engine.prevSnapshot.find? fun s => s.id = source) = some atk)
    (second : (engine.prevSnapshot.find? fun s => s.id = target) = some victim)
    (hostile : atk.faction.isHostileTo victim.faction = true)
    (conquers : Conquers engine (zoneOf atk.position) atk.faction) :
    captures engine (.Interact source target "ATTACK") = true := by
  simp only [captures, first, second, hostile, conquers, decide_true, Bool.and_self]

theorem Seen.attack (seen : Seen session engine table) (source target : ActorId)
    (announced : captures engine (.Interact source target "ATTACK") = true → (queueOf engine session).length < 64) :
    Seen session (engine.resolveCombat source target) table := by
  refine seen.told (told_resolveCombat engine source target) fun queue queued shows => ?_
  cases first : engine.prevSnapshot.find? fun s => s.id = source with
  | none => exact shows
  | some atk =>
      cases second : engine.prevSnapshot.find? fun s => s.id = target with
      | none => exact shows
      | some victim =>
          have plain := capture_strike atk victim
          simp only [combatNews]
          split_ifs with hostile conquers
          · have room : queue.length < 64 := by
              have room := announced (captures_iff first second hostile conquers)
              rwa [queueOf, queued] at room
            exact Shows.plain (shows.capture (zoneOf atk.position) atk.faction room) plain
          · exact shows.plain plain
          · exact shows

theorem Seen.effect (seen : Seen session engine table) (effect : ActorEffect)
    (announced : captures engine effect = true → (queueOf engine session).length < 64) :
    Seen session (WorldEngine.processEffect ord engine effect) table := by
  cases effect with
  | Move id dest => exact seen.told (told_followAnchor engine ord id) fun _ _ shows => shows
  | Interact source target action =>
      simp only [WorldEngine.processEffect]
      split_ifs with attack
      · subst attack
        exact seen.attack source target announced
      · exact seen
  | Speak id text => exact seen
  | Damaged id newHp => exact seen
  | Died id name killerName =>
      exact seen.plain (told_broadcastWorldEvent engine _)
        (capture_eq_none (by decide : '💀' ≠ '🏴') (by simp only [String.toList_append]; rfl))
  | LevelUp id name level =>
      exact seen.plain (told_broadcastWorldEvent engine _)
        (capture_eq_none (by decide : '⬆' ≠ '🏴') (by simp only [String.toList_append]; rfl))

theorem Seen.effects (seen : Seen session engine table) (effects : List ActorEffect)
    (announced : Announced session ord engine effects) :
    Seen session (effects.foldl (WorldEngine.processEffect ord) engine) table := by
  induction effects generalizing engine with
  | nil => exact seen
  | cons effect rest ih => exact ih (seen.effect effect announced.1) announced.2

/-! ## One call -/

theorem tick_territory (engine : WorldEngine) (ord : Order) (clock : SessionId → UInt64) :
    (engine.tick ord clock).territory = (engine.applyEffects ord).territory := by
  obtain ⟨queues, pushed, -⟩ := pushDeltas_spec (engine.applyEffects ord) ord clock
  rw [WorldEngine.tick, pushed]

theorem Seen.tick (seen : Seen session engine table)
    (announced : Announced session ord (afterDrain engine ord) (engine.runtime.tick ord (engine.tickCount + 1)).1)
    (kept : Kept session engine ord clock) : Seen session (engine.tick ord clock) table := by
  have drained : Seen session (afterDrain engine ord) table := seen
  have told : Seen session (engine.applyEffects ord) table := drained.effects _ announced
  intro queue queued
  rw [tick_territory]
  rcases tickFrames_cases engine ord clock session with ⟨-, same⟩ | ⟨delta, earlier, one, -, there, pushed⟩
  · exact told queue (same.symm.trans queued)
  · cases queued.symm.trans pushed
    have plain : 32 ≤ earlier.length → ∀ message, earlier.head? = some (.WorldEvent message) →
        Client.capture message = none := by
      unfold Kept at kept
      rw [queueOf, there, one] at kept
      exact fun crowded => kept crowded (List.cons_ne_nil _ _)
    rw [drainInto_pushDelta delta plain]
    exact told earlier there

theorem Seen.same (seen : Seen session engine table) (territory : after.territory = engine.territory)
    (queues : after.sessionQueues.lookup session = engine.sessionQueues.lookup session) : Seen session after table := by
  intro queue queued
  rw [territory]
  exact seen queue (queues.symm.trans queued)

theorem Seen.broadcast (seen : Seen session engine table) {message : String}
    (truthful : session ∈ engine.sessionQueues → (queueOf engine session).length < 64 → Truthful engine message) :
    Seen session (engine.broadcastWorldEvent message) table := by
  refine seen.told (told_broadcastWorldEvent engine message) fun queue queued shows => shows.event fun room => ?_
  refine truthful (HashMap.mem_of_lookup queued) ?_
  rw [queueOf, queued]
  exact room

theorem Seen.drain (seen : Seen session s.engine s.territory) (drained : SessionId) :
    Seen session (s.next session (.drainSession drained)).engine (s.next session (.drainSession drained)).territory := by
  obtain ⟨queues, emptied, lookup⟩ := drainSession_spec s.engine drained
  intro queue queued
  change (s.engine.drainSession drained).2.sessionQueues.lookup session = some queue at queued
  change Shows (s.engine.drainSession drained).2.territory _
  rw [emptied] at queued ⊢
  change queues.lookup session = some queue at queued
  rw [lookup] at queued
  by_cases mine : drained = session
  · subst mine
    rw [if_pos rfl, Option.map_eq_some_iff] at queued
    obtain ⟨before, there, rfl⟩ := queued
    have table : (s.next drained (.drainSession drained)).territory = drainInto s.territory before := by
      refine (if_pos rfl).trans ?_
      rw [drainSession_frames, queueOf, there]
      rfl
    rw [table]
    exact seen before there
  · have table : (s.next session (.drainSession drained)).territory = s.territory := if_neg mine
    rw [if_neg fun same => mine same.symm] at queued
    rw [table]
    exact seen queue queued

theorem Seen.register (seen : Seen session s.engine s.territory) (ord : Order) (spec : ActorSpec) (opened : SessionId)
    (current : opened = session → UpToDate s) :
    Seen session (s.next session (.spawnActorForSession ord spec opened)).engine s.territory := by
  have lookup : (s.next session (.spawnActorForSession ord spec opened)).engine.sessionQueues.lookup session =
      if session = opened then some [] else s.engine.sessionQueues.lookup session := HashMap.lookup_insert_eq _ _ _ _
  by_cases mine : opened = session
  · intro queue queued
    rw [lookup, if_pos mine.symm] at queued
    cases queued
    exact current mine
  · exact seen.same rfl (lookup.trans (if_neg fun same => mine same.symm))

theorem removeSession_territory (engine : WorldEngine) (session : SessionId) (despawn : Bool) :
    (engine.removeSession session despawn).territory = engine.territory := by
  unfold WorldEngine.removeSession
  cases despawn with
  | false => rfl
  | true => cases engine.sessionToActor.lookup session <;> rfl

theorem Seen.next (seen : Seen session s.engine s.territory) {call : EngineCall} (heard : Heard session s call) :
    Seen session (s.next session call).engine (s.next session call).territory := by
  cases call with
  | spawnActorForSession ord spec opened => exact seen.register ord spec opened heard
  | spawnActorStandalone spec => exact seen
  | removeSession closed despawn =>
      have queues : (s.next session (.removeSession closed despawn)).engine.sessionQueues.lookup session =
          if session = closed then none else s.engine.sessionQueues.lookup session := by
        change (s.engine.removeSession closed despawn).sessionQueues.lookup session = _
        rw [removeSession_queues, HashMap.lookup_erase_eq]
      intro queue queued
      rw [queues] at queued
      split_ifs at queued
      change Shows (s.engine.removeSession closed despawn).territory _
      rw [removeSession_territory]
      exact seen queue queued
  | despawnActor id => exact seen
  | send handle msg => exact seen
  | applyDirective directive =>
      cases directive with
      | ForceMove id dest => exact seen.told (told_sendToActor s.engine id (.Move dest)) fun _ _ shows => shows
      | NarrativeEvent message => exact seen.broadcast heard
      | EconomyAdjust _ _ => exact seen
      | FlagActor _ _ => exact seen
  | broadcastWorldEvent message => exact seen.broadcast heard
  | drainSession drained => exact seen.drain drained
  | tick ord clock => exact seen.tick heard.1 heard.2

theorem seen_reachable {cfg : WorldConfig} (reachable : SpectatorReachable cfg session (Heard session) s) :
    Seen session s.engine s.territory := by
  induction reachable with
  | start first =>
      subst first
      exact fun queue queued => absurd (HashMap.mem_of_lookup queued) (AList.notMem_empty session)
  | step _ heard moved ih =>
      cases moved
      exact ih.next heard

/-- In a run in which every capture reaches the client, and nothing else that looks like one, it shows the owners. -/
theorem territory_agrees (cfg : WorldConfig) (session : SessionId) (s : Spectator)
    (reachable : SpectatorReachable cfg session (Heard session) s) : OwnersAgree session s := by
  intro member zone
  obtain ⟨queue, queued⟩ := HashMap.lookup_of_mem member
  have table : (s.next session (.drainSession session)).territory = drainInto s.territory queue := by
    refine (if_pos rfl).trans ?_
    rw [drainSession_frames, queueOf, queued]
    rfl
  rw [table]
  exact seen_reachable reachable queue queued zone

/-! ## A zone changes hands -/

def soldier (id : UInt64) (faction : Faction) : ActorSpec := { villager id ⟨100, 100⟩ with faction := faction }

def fiveStrikes : List EngineCall := List.replicate 5 (.send ⟨⟨1⟩, 0⟩ (.Interact ⟨2⟩ "ATTACK"))

def silent : SessionId → UInt64 := fun _ => 0

-- the first strike needs both soldiers in the snapshot of a tick
def battle : List EngineCall :=
  [.spawnActorStandalone (soldier 2 .Empire), .tick .stored silent] ++ fiveStrikes ++ [.tick .stored silent]

theorem upToDate_start (cfg : WorldConfig) : UpToDate (Spectator.start cfg) := by
  intro zone
  cases zone <;> rfl

theorem kept_of_short (short : (queueOf (engine.applyEffects ord) session).length < 32) :
    Kept session engine ord clock := by
  intro crowded
  omega

theorem territory_agrees_after_capture :
    let s := ((.spawnActorForSession .stored (soldier 1 .Alliance) ⟨1⟩ :: battle).foldl (Spectator.next ⟨1⟩)
      (Spectator.start .default))
    s.engine.territory.lookup .NorthForest = some .Alliance ∧ OwnersAgree ⟨1⟩ s := by
  intro s
  refine ⟨by decide +kernel, territory_agrees .default ⟨1⟩ s ?_⟩
  refine Transition.Reachable.foldl (.start rfl) ⟨fun _ => upToDate_start .default, trivial, ⟨?_, ?_⟩, trivial, trivial,
    trivial, trivial, trivial, ⟨?_, ?_⟩, trivial⟩
  · decide +kernel
  · exact kept_of_short (by decide +kernel)
  · decide +kernel
  · exact kept_of_short (by decide +kernel)

theorem late_joiner_disagrees :
    ¬∀ calls : List EngineCall, OwnersAgree ⟨1⟩ (calls.foldl (Spectator.next ⟨1⟩) (Spectator.start .default)) := by
  intro claim
  have agrees := claim (.spawnActorStandalone (soldier 1 .Alliance) :: battle ++
    [.spawnActorForSession .stored (villager 3 ⟨5, 5⟩) ⟨1⟩])
  have owner := agrees (by decide +kernel) .NorthForest
  revert owner
  decide +kernel

end LiveWorld.Proof.Engine

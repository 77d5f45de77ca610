import LiveWorld.Proof.Engine.Push
import LiveWorld.Spec.Territory

/-!
# What sessions are told

The queues of all sessions are offered the same events in the same order, and the territory changes with the events
that announce it.
-/

namespace LiveWorld.Proof.Engine
open HashTable Spec
variable {engine before middle after : WorldEngine} {ord : Order}

inductive News
  | event (message : String)
  | capture (zone : ZoneId) (winner : Faction)

namespace News

def text : News → String
  | .event message => message
  | .capture zone winner => s!"🏴 {winner.debug} has captured {zone.label}!"

def settle (territory : HashMap ZoneId Faction) : News → HashMap ZoneId Faction
  | .event _ => territory
  | .capture zone winner => territory.insert zone winner

end News

def offerAll (queue : SessionQueue) (news : List News) : SessionQueue :=
  news.foldl (fun queue item => WorldEngine.offerEvent item.text queue) queue

theorem offerAll_append (queue : SessionQueue) (early late : List News) :
    offerAll queue (early ++ late) = offerAll (offerAll queue early) late :=
  List.foldl_append

structure Told (news : List News) (before after : WorldEngine) : Prop where
  queues : ∀ session, after.sessionQueues.lookup session =
    (before.sessionQueues.lookup session).map (offerAll · news)
  territory : after.territory = news.foldl News.settle before.territory

theorem Told.refl (engine : WorldEngine) : Told [] engine engine := by
  refine ⟨fun session => ?_, rfl⟩
  cases engine.sessionQueues.lookup session <;> rfl

theorem Told.trans {early late : List News} (first : Told early before middle) (second : Told late middle after) :
    Told (early ++ late) before after := by
  refine ⟨fun session => ?_, ?_⟩
  · rw [second.queues, first.queues, Option.map_map]
    congr 1
    funext queue
    exact (offerAll_append queue early late).symm
  · rw [second.territory, first.territory, List.foldl_append]

theorem Told.of_eq (queues : after.sessionQueues = before.sessionQueues) (territory : after.territory = before.territory) :
    Told [] before after := by
  refine ⟨fun session => ?_, territory⟩
  rw [queues]
  cases before.sessionQueues.lookup session <;> rfl

theorem told_broadcastWorldEvent (engine : WorldEngine) (message : String) :
    Told [.event message] engine (engine.broadcastWorldEvent message) :=
  ⟨fun session => HashMap.lookup_mapValues _ _ session, rfl⟩

theorem told_sendToActor (engine : WorldEngine) (id : ActorId) (msg : ActorMessage) :
    Told [] engine (engine.sendToActor id msg).2 := by
  unfold WorldEngine.sendToActor
  cases engine.runtime.handle id with
  | some handle => exact .of_eq rfl rfl
  | none => exact .refl engine

/-! ## Combat -/

theorem told_shiftTerritory (engine : WorldEngine) (zone : ZoneId) (winner : Faction) :
    Told (if Conquers engine zone winner then [.capture zone winner] else []) engine
      (engine.shiftTerritory zone winner) := by
  unfold WorldEngine.shiftTerritory
  by_cases conquers : Conquers engine zone winner
  · have known := conquers
    obtain ⟨hostile, taken, leading, enough⟩ := known
    simp only [if_neg hostile, if_neg taken, if_pos leading, if_pos enough, if_pos conquers]
    exact ⟨fun session => HashMap.lookup_mapValues _ _ session, rfl⟩
  · rw [if_neg conquers]
    split_ifs with neutral held
    · exact .refl engine
    · exact .refl engine
    · simp only
      split_ifs with leading enough
      · exact absurd ⟨neutral, held, leading, enough⟩ conquers
      · exact .of_eq rfl rfl
      · exact .of_eq rfl rfl

def strike (atk victim : ActorState) : String :=
  let damage := WorldEngine.attackDamage atk.level victim.level
  s!"⚔ {atk.name} strikes {victim.name} for {damage} damage!"

def combatNews (engine : WorldEngine) : Option ActorState → Option ActorState → List News
  | some atk, some victim =>
      if atk.faction.isHostileTo victim.faction then
        (if Conquers engine (zoneOf atk.position) atk.faction then [.capture (zoneOf atk.position) atk.faction] else [])
          ++ [.event (strike atk victim)]
      else []
  | _, _ => []

/-- What the sessions are told about one effect. -/
def newsOf (engine : WorldEngine) : ActorEffect → List News
  | .Interact source target action =>
      if action = "ATTACK" then
        combatNews engine (engine.prevSnapshot.find? fun s => s.id = source)
          (engine.prevSnapshot.find? fun s => s.id = target)
      else []
  | .Died _ name killerName => [.event s!"💀 {name} was defeated by {killerName}! Respawning..."]
  | .LevelUp _ name level => [.event s!"⬆ {name} reached Level {level}!"]
  | _ => []

theorem conquers_sendToActor (engine : WorldEngine) (id : ActorId) (msg : ActorMessage) (zone : ZoneId)
    (winner : Faction) : Conquers (engine.sendToActor id msg).2 zone winner ↔ Conquers engine zone winner := by
  unfold WorldEngine.sendToActor
  cases engine.runtime.handle id <;> exact Iff.rfl

theorem told_followAnchor (engine : WorldEngine) (ord : Order) (id : ActorId) :
    Told [] engine (engine.followAnchor ord id) := by
  unfold WorldEngine.followAnchor
  cases (engine.runtime.snapshotAll ord).find? fun s => s.id = id with
  | some snap => exact .of_eq rfl rfl
  | none => exact .refl engine

theorem told_resolveCombat (engine : WorldEngine) (source target : ActorId) :
    Told (combatNews engine (engine.prevSnapshot.find? fun s => s.id = source)
      (engine.prevSnapshot.find? fun s => s.id = target)) engine (engine.resolveCombat source target) := by
  unfold WorldEngine.resolveCombat
  cases engine.prevSnapshot.find? fun s => s.id = source with
  | none => exact .refl engine
  | some atk =>
      cases engine.prevSnapshot.find? fun s => s.id = target with
      | none => exact .refl engine
      | some victim =>
          simp only [combatNews]
          cases atk.faction.isHostileTo victim.faction with
          | false => exact .refl engine
          | true =>
              simp only [Bool.not_true, Bool.false_eq_true, if_false, if_true]
              let damage := ActorMessage.TakeDamage (WorldEngine.attackDamage atk.level victim.level) atk.name
              let struck := (engine.sendToActor target damage).2
              let rewarded := (struck.sendToActor source (.GainXp 30)).2
              have sent : Told [] engine rewarded :=
                (told_sendToActor engine target damage).trans (told_sendToActor struck source (.GainXp 30))
              have shifted := told_shiftTerritory rewarded (zoneOf atk.position) atk.faction
              have same : Conquers rewarded (zoneOf atk.position) atk.faction ↔
                  Conquers engine (zoneOf atk.position) atk.faction :=
                (conquers_sendToActor struck source _ _ _).trans (conquers_sendToActor engine target _ _ _)
              simp only [same] at shifted
              exact (sent.trans shifted).trans (told_broadcastWorldEvent _ (strike atk victim))

theorem told_processEffect (engine : WorldEngine) (ord : Order) (effect : ActorEffect) :
    Told (newsOf engine effect) engine (WorldEngine.processEffect ord engine effect) := by
  cases effect with
  | Move id dest => exact told_followAnchor engine ord id
  | Interact source target action =>
      simp only [WorldEngine.processEffect, newsOf]
      split_ifs
      · exact told_resolveCombat engine source target
      · exact .refl engine
  | Speak id text => exact .refl engine
  | Damaged id newHp => exact .refl engine
  | Died id name killerName => exact told_broadcastWorldEvent engine _
  | LevelUp id name level => exact told_broadcastWorldEvent engine _

theorem told_effects (engine : WorldEngine) (ord : Order) (effects : List ActorEffect) :
    ∃ news, Told news engine (effects.foldl (WorldEngine.processEffect ord) engine) := by
  induction effects generalizing engine with
  | nil => exact ⟨[], .refl engine⟩
  | cons effect rest ih =>
      obtain ⟨later, told⟩ := ih (WorldEngine.processEffect ord engine effect)
      exact ⟨_, (told_processEffect engine ord effect).trans told⟩

end LiveWorld.Proof.Engine

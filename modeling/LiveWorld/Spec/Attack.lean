import LiveWorld.Spec.EngineRun

/-!
# One attack

The fighters are looked up in the snapshot of the tick before, and the messages go to whoever has a handle now.
-/

namespace LiveWorld.Spec
open HashTable

/-- An attack among the effects of a tick. -/
structure Attack (engine : WorldEngine) (ord : Order) where
  source : ActorId
  target : ActorId
  earlier : List ActorEffect
  later : List ActorEffect
  processed : (engine.runtime.tick ord (engine.tickCount + 1)).1 = earlier ++ .Interact source target "ATTACK" :: later

/-- The engine when the attack comes up. -/
def Attack.before {engine : WorldEngine} {ord : Order} (attack : Attack engine ord) : WorldEngine :=
  let tickCount := engine.tickCount + 1
  attack.earlier.foldl (WorldEngine.processEffect ord)
    { engine with tickCount, runtime := (engine.runtime.tick ord tickCount).2 }

variable (engine after : WorldEngine) (source target : ActorId)

def snapshotOf (id : ActorId) : Option ActorState := engine.prevSnapshot.find? fun s => s.id = id

def strikeText (atk victim : ActorState) : String :=
  let damage := WorldEngine.attackDamage atk.level victim.level
  s!"⚔ {atk.name} strikes {victim.name} for {damage} damage!"

def Delivered (id : ActorId) (msg : ActorMessage) : Prop :=
  ∃ handle, engine.runtime.handle id = some handle ∧
    after.runtime.inboxes.pending handle.sender = engine.runtime.inboxes.pending handle.sender ++ [msg]

/-- The target is hit, the attacker rewarded, the pressure of the zone shifted, and the strike announced. -/
structure Fought (atk victim : ActorState) : Prop where
  struck : Delivered engine after target (.TakeDamage (WorldEngine.attackDamage atk.level victim.level) atk.name)
  rewarded : Delivered engine after source (.GainXp 30)
  territory : after.territory = (engine.shiftTerritory (zoneOf atk.position) atk.faction).territory
  zonePressure : after.zonePressure = (engine.shiftTerritory (zoneOf atk.position) atk.faction).zonePressure
  announced : after.sessionQueues =
    ((engine.shiftTerritory (zoneOf atk.position) atk.faction).broadcastWorldEvent (strikeText atk victim)).sessionQueues

structure Untouched : Prop where
  inboxes : ∀ ref, after.runtime.inboxes.pending ref = engine.runtime.inboxes.pending ref
  territory : after.territory = engine.territory
  zonePressure : after.zonePressure = engine.zonePressure
  sessionQueues : after.sessionQueues = engine.sessionQueues

def TakesMail (id : ActorId) : Prop :=
  ∃ handle, engine.runtime.handle id = some handle ∧
    (engine.runtime.inboxes.pending handle.sender).length < queueSize - 1

instance TakesMail.decidable (id : ActorId) : Decidable (TakesMail engine id) :=
  match held : engine.runtime.handle id with
  | some handle =>
      decidable_of_iff ((engine.runtime.inboxes.pending handle.sender).length < queueSize - 1) (by simp [TakesMail, held])
  | none => .isFalse (by simp [TakesMail, held])

def InboxFull (id : ActorId) : Prop :=
  ∃ handle, engine.runtime.handle id = some handle ∧
    queueSize - 1 ≤ (engine.runtime.inboxes.pending handle.sender).length

inductive Obstructed : Prop
  | unknownSource : snapshotOf engine source = none → Obstructed
  | unknownTarget : snapshotOf engine target = none → Obstructed
  | goneSource : source ∉ engine.runtime.actors → Obstructed
  | goneTarget : target ∉ engine.runtime.actors → Obstructed
  | peaceful (atk victim : ActorState) : snapshotOf engine source = some atk → snapshotOf engine target = some victim →
      atk.faction.isHostileTo victim.faction = false → Obstructed
  | full : InboxFull engine target → Obstructed

def AllOrNothing : Prop :=
  (∃ atk victim, snapshotOf engine source = some atk ∧ snapshotOf engine target = some victim ∧
      Fought engine (engine.resolveCombat source target) source target atk victim) ∨
    (Obstructed engine source target ∧ Untouched engine (engine.resolveCombat source target))

/-- The zone is the attacker's already, and no queue has room for an event. -/
def Unnoticed (atk : ActorState) : Prop :=
  (engine.territory.lookup (zoneOf atk.position)).getD .Neutral = atk.faction ∧
    ∀ session queue, engine.sessionQueues.lookup session = some queue → 64 ≤ queue.length

/-- Enemies that meet both have room in their inboxes, or neither has and nobody notices anything. -/
def Undivided : Prop :=
  ∀ atk victim, snapshotOf engine source = some atk → snapshotOf engine target = some victim →
    atk.faction.isHostileTo victim.faction = true →
    (TakesMail engine target ∧ TakesMail engine source) ∨
      (¬TakesMail engine target ∧ ¬TakesMail engine source ∧ Unnoticed engine atk)

end LiveWorld.Spec

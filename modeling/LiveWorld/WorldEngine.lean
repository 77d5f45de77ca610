import LiveWorld.ActorRuntime
import LiveWorld.InterestManager
import LiveWorld.StateEncoder

/-!
# The world engine

A session's queue is shared with the connection's delta pump, and with nobody else once the session is
removed; it is kept here as the list of its frames. The clock reading of `now_ms()` is an argument of
`tick`, one for each session that gets a delta.
-/

namespace LiveWorld
open HashTable Machine

abbrev SessionQueue := List SessionFrame

/-! ## Zones -/

inductive ZoneId
  | NorthForest
  | EastDesert
  | WestCoast
  | SouthPlain
  | CentralCity
  | MountainBorder
  | Wilderness
  deriving DecidableEq, Repr

def ZoneId.label : ZoneId → String
  | .NorthForest => "Northern Forest"
  | .EastDesert => "Eastern Desert"
  | .WestCoast => "Western Coast"
  | .SouthPlain => "Southern Plains"
  | .CentralCity => "Central City"
  | .MountainBorder => "Mountain Border"
  | .Wilderness => "Wilderness"

def zoneOf (pos : Position) : ZoneId :=
  let x := pos.x
  let y := pos.y
  if (3500 ≤ x ∧ x ≤ 6500) ∧ 3500 ≤ y ∧ y ≤ 6500 then .CentralCity
  else if x ≤ 4000 ∧ y ≤ 4000 then .NorthForest
  else if x ≥ 6000 ∧ y ≤ 4000 then .EastDesert
  else if x ≤ 3000 ∧ y ≥ 6000 then .WestCoast
  else if (3000 ≤ x ∧ x ≤ 7000) ∧ y ≥ 6000 then .SouthPlain
  else if x ≥ 7000 ∧ y ≥ 5000 then .MountainBorder
  else .Wilderness

/-! ## The engine -/

structure WorldEngine where
  runtime : ActorRuntime
  interest : InterestManager
  cfg : WorldConfig
  tickCount : UInt64
  sessionQueues : HashMap SessionId SessionQueue
  sessionToActor : HashMap SessionId ActorId
  prevSnapshot : List ActorState
  removedThisTick : List ActorId
  territory : HashMap ZoneId Faction
  zonePressure : HashMap ZoneId (Faction × UInt8)

namespace WorldEngine

def initialTerritory : HashMap ZoneId Faction :=
  let territory : HashMap ZoneId Faction := ∅
  let territory := territory.insert .NorthForest .Empire
  let territory := territory.insert .MountainBorder .Empire
  let territory := territory.insert .WestCoast .Alliance
  let territory := territory.insert .SouthPlain .Alliance
  let territory := territory.insert .CentralCity .Neutral
  let territory := territory.insert .EastDesert .WanderersGuild
  territory.insert .Wilderness .Neutral

def new (cfg : WorldConfig) : WorldEngine where
  runtime := ActorRuntime.new cfg
  interest := InterestManager.new cfg.interestRadius
  cfg := cfg
  tickCount := 0
  sessionQueues := ∅
  sessionToActor := ∅
  prevSnapshot := []
  removedThisTick := []
  territory := initialTerritory
  zonePressure := ∅

def addSession (self : WorldEngine) (session : SessionId) (anchor : ActorId) (cell : GridCell) : WorldEngine :=
  { self with
    sessionQueues := self.sessionQueues.insert session []
    interest := self.interest.register session anchor cell }

def spawnActorForSession (self : WorldEngine) (ord : Order) (spec : ActorSpec) (session : SessionId) :
    ActorHandle × WorldEngine :=
  let id := spec.id
  let (handle, runtime) := self.runtime.spawnActor spec
  let cell := (((runtime.snapshotAll ord).find? fun s => s.id = id).map ActorState.cell).getD ⟨0, 0⟩
  let self := { self with runtime }.addSession session id cell
  (handle, { self with sessionToActor := self.sessionToActor.insert session id })

def spawnActorStandalone (self : WorldEngine) (spec : ActorSpec) : ActorHandle × WorldEngine :=
  let (handle, runtime) := self.runtime.spawnActor spec
  (handle, { self with runtime })

def removeSession (self : WorldEngine) (session : SessionId) (despawnActor : Bool) : WorldEngine :=
  let self :=
    if despawnActor then
      match self.sessionToActor.lookup session with
      | some actorId =>
          { self with
            sessionToActor := self.sessionToActor.erase session
            removedThisTick := self.removedThisTick ++ [actorId]
            runtime := (self.runtime.despawnActor actorId).2 }
      | none => self
    else { self with sessionToActor := self.sessionToActor.erase session }
  { self with
    sessionQueues := self.sessionQueues.erase session
    interest := self.interest.unregister session }

def despawnActor (self : WorldEngine) (id : ActorId) : WorldEngine :=
  { self with
    removedThisTick := self.removedThisTick ++ [id]
    runtime := (self.runtime.despawnActor id).2 }

-- the delta pump's `q.drain(..)`
def drainSession (self : WorldEngine) (session : SessionId) : List SessionFrame × WorldEngine :=
  match self.sessionQueues.lookup session with
  | some queue => (queue, { self with sessionQueues := self.sessionQueues.insert session [] })
  | none => ([], self)

def send (self : WorldEngine) (handle : ActorHandle) (msg : ActorMessage) : Bool × WorldEngine :=
  let (sent, runtime) := self.runtime.send handle msg
  (sent, { self with runtime })

def sendToActor (self : WorldEngine) (id : ActorId) (msg : ActorMessage) : Bool × WorldEngine :=
  match self.runtime.handle id with
  | some handle => self.send handle msg
  | none => (false, self)

def offerEvent (message : String) (queue : SessionQueue) : SessionQueue :=
  if queue.length < 64 then queue ++ [.WorldEvent message] else queue

def broadcastWorldEvent (self : WorldEngine) (message : String) : WorldEngine :=
  { self with sessionQueues := HashMap.mapValues (offerEvent message) self.sessionQueues }

def applyDirective (self : WorldEngine) : WorldDirective → WorldEngine
  | .ForceMove actorId dest => (self.sendToActor actorId (.Move dest)).2
  | .NarrativeEvent message => self.broadcastWorldEvent message
  | .EconomyAdjust _ _ => self
  | .FlagActor _ _ => self

/-! ## Combat -/

def shiftTerritory (self : WorldEngine) (zone : ZoneId) (winner : Faction) : WorldEngine :=
  if winner = .Neutral then self
  else if (self.territory.lookup zone).getD .Neutral = winner then self
  else
    let entry := (self.zonePressure.lookup zone).getD (winner, 0)
    if entry.1 = winner then
      let points := entry.2 + 1
      if points ≥ 5 then
        let label := zone.label
        let winnerName := winner.debug
        { self with
          territory := self.territory.insert zone winner
          zonePressure := self.zonePressure.erase zone }.broadcastWorldEvent
            s!"🏴 {winnerName} has captured {label}!"
      else { self with zonePressure := self.zonePressure.insert zone (winner, points) }
    else { self with zonePressure := self.zonePressure.insert zone (winner, 1) }

def attackDamage (attackerLevel targetLevel : UInt8) : UInt8 :=
  max (saturatingSub8 (saturatingAdd8 10 (saturatingMul8 attackerLevel 5)) (saturatingMul8 targetLevel 2)) 1

def resolveCombat (self : WorldEngine) (attackerId targetId : ActorId) : WorldEngine :=
  match self.prevSnapshot.find? fun s => s.id = attackerId with
  | none => self
  | some atk =>
      match self.prevSnapshot.find? fun s => s.id = targetId with
      | none => self
      | some target =>
          if !atk.faction.isHostileTo target.faction then self
          else
            let damage := attackDamage atk.level target.level
            let atkName := atk.name
            let defName := target.name
            let self := (self.sendToActor targetId (.TakeDamage damage atkName)).2
            let self := (self.sendToActor attackerId (.GainXp 30)).2
            let self := self.shiftTerritory (zoneOf atk.position) atk.faction
            self.broadcastWorldEvent s!"⚔ {atkName} strikes {defName} for {damage} damage!"

/-! ## One tick -/

def followAnchor (self : WorldEngine) (ord : Order) (id : ActorId) : WorldEngine :=
  match (self.runtime.snapshotAll ord).find? fun s => s.id = id with
  | some snap =>
      { self with
        interest := (self.interest.sessions ord).foldl (fun interest (sid, anchorId, _) =>
          if anchorId = id then interest.updateCell sid snap.cell else interest) self.interest }
  | none => self

def processEffect (ord : Order) (self : WorldEngine) : ActorEffect → WorldEngine
  | .Move id _ => self.followAnchor ord id
  | .Interact source target action => if action = "ATTACK" then self.resolveCombat source target else self
  | .Died _ name killerName =>
      self.broadcastWorldEvent s!"💀 {name} was defeated by {killerName}! Respawning..."
  | .LevelUp _ name level => self.broadcastWorldEvent s!"⬆ {name} reached Level {level}!"
  | _ => self

def pushDelta (delta : StateDelta) (queue : SessionQueue) : SessionQueue :=
  (if queue.length ≥ 32 then queue.tail else queue) ++ [.Delta delta]

def pushSession (ord : Order) (clock : SessionId → UInt64) (changed : List ActorState)
    (newlyRemoved : List ActorId) (self : WorldEngine) (sid : SessionId) : WorldEngine :=
  let visibleIds := self.interest.visibleActors ord sid self.runtime.grid
  let visibleUpdates := changed.filter fun s => decide (s.id ∈ visibleIds)
  if visibleUpdates.isEmpty && newlyRemoved.isEmpty then self
  else
    let delta : StateDelta :=
      { tick := self.tickCount
        timestampMs := clock sid
        updates := visibleUpdates
        removed := newlyRemoved }
    match self.sessionQueues.lookup sid with
    | some queue => { self with sessionQueues := self.sessionQueues.insert sid (pushDelta delta queue) }
    | none => self

-- steps 1 and 2: drain all inboxes, then process the effects
def applyEffects (self : WorldEngine) (ord : Order) : WorldEngine :=
  let self := { self with tickCount := self.tickCount + 1 }
  let (effects, runtime) := self.runtime.tick ord self.tickCount
  effects.foldl (processEffect ord) { self with runtime }

-- steps 3 to 5: the snapshot, the diff and a delta for each session
def pushDeltas (self : WorldEngine) (ord : Order) (clock : SessionId → UInt64) : WorldEngine :=
  let currentSnapshot := self.runtime.snapshotAll ord
  let removed := self.removedThisTick
  let (changed, newlyRemoved) := diffStates ord self.prevSnapshot currentSnapshot
  let newlyRemoved := newlyRemoved ++ removed
  let self := { self with removedThisTick := [] }
  let self := ((self.interest.sessions ord).map fun entry => entry.1).foldl
    (pushSession ord clock changed newlyRemoved) self
  { self with prevSnapshot := currentSnapshot }

def tick (self : WorldEngine) (ord : Order) (clock : SessionId → UInt64) : WorldEngine :=
  (self.applyEffects ord).pushDeltas ord clock

/-! ## Accessors -/

def actorCount (self : WorldEngine) : Nat := self.runtime.actorCount

def sessionCount (self : WorldEngine) : Nat := HashMap.size self.sessionQueues

def fullSnapshot (self : WorldEngine) (ord : Order) : List ActorState := self.runtime.snapshotAll ord

end WorldEngine

end LiveWorld

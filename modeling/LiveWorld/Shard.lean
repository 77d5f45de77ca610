import LiveWorld.Lib.Binary32
import LiveWorld.Persistence
import Mathlib.Data.List.FinRange

/-!
# The sharded engine

Bands of the x-axis are engines of their own. A shard is chosen when an actor is spawned, by the place it
is spawned at, and kept. The inboxes of a shard are that shard's, so a handle comes with its shard.
-/

namespace LiveWorld
open HashTable

/-- `shardCount` is at least one, as `new` asserts. -/
structure ShardedEngine (shardCount : Nat) where
  shards : Fin shardCount → WorldEngine
  shardWidth : Float32.Model
  sessionToShard : HashMap SessionId (Fin shardCount)
  globalTick : UInt64
  atLeastOne : shardCount ≥ 1

structure ShardHandle (shardCount : Nat) where
  shard : Fin shardCount
  handle : ActorHandle
  deriving DecidableEq, Repr

namespace ShardedEngine
variable {shardCount : Nat}

def new (cfg : WorldConfig) (atLeastOne : shardCount ≥ 1) : ShardedEngine shardCount :=
  let worldWidth := Binary32.nearest cfg.gridWidth * Binary32.nearest cfg.cellSize
  { shards := fun _ => WorldEngine.new cfg
    shardWidth := worldWidth / Binary32.nearest shardCount
    sessionToShard := ∅
    globalTick := 0
    atLeastOne }

/-- `(x / self.shard_width) as usize` -/
def band (self : ShardedEngine shardCount) (x : Rat) : Nat := (Binary32.nearest x / self.shardWidth).toUInt64.toNat

def shardIdx (self : ShardedEngine shardCount) (x : Rat) : Fin shardCount :=
  ⟨min (self.band x) (shardCount - 1), by have := self.atLeastOne; omega⟩

def setShard (self : ShardedEngine shardCount) (idx : Fin shardCount) (shard : WorldEngine) :
    ShardedEngine shardCount :=
  { self with shards := Function.update self.shards idx shard }

def spawnActorForSession (self : ShardedEngine shardCount) (ord : Order) (spec : ActorSpec) (session : SessionId) :
    ShardHandle shardCount × ShardedEngine shardCount :=
  let idx := self.shardIdx spec.position.x
  let (handle, shard) := (self.shards idx).spawnActorForSession ord spec session
  (⟨idx, handle⟩, { self.setShard idx shard with sessionToShard := self.sessionToShard.insert session idx })

def spawnActorStandalone (self : ShardedEngine shardCount) (spec : ActorSpec) :
    ShardHandle shardCount × ShardedEngine shardCount :=
  let idx := self.shardIdx spec.position.x
  let (handle, shard) := (self.shards idx).spawnActorStandalone spec
  (⟨idx, handle⟩, self.setShard idx shard)

def removeSession (self : ShardedEngine shardCount) (session : SessionId) (despawnActor : Bool) :
    ShardedEngine shardCount :=
  match self.sessionToShard.lookup session with
  | some idx =>
      { self.setShard idx ((self.shards idx).removeSession session despawnActor) with
        sessionToShard := self.sessionToShard.erase session }
  | none => self

def send (self : ShardedEngine shardCount) (handle : ShardHandle shardCount) (msg : ActorMessage) :
    Bool × ShardedEngine shardCount :=
  let (sent, shard) := (self.shards handle.shard).send handle.handle msg
  (sent, self.setShard handle.shard shard)

-- try each shard until one takes the message
def sendToAny (self : ShardedEngine shardCount) (id : ActorId) (msg : ActorMessage) :
    List (Fin shardCount) → ShardedEngine shardCount
  | [] => self
  | idx :: rest =>
      let (sent, shard) := (self.shards idx).sendToActor id msg
      if sent then self.setShard idx shard else self.sendToAny id msg rest

def applyDirective (self : ShardedEngine shardCount) : WorldDirective → ShardedEngine shardCount
  | .ForceMove actorId dest => self.sendToAny actorId (.Move dest) (List.finRange shardCount)
  | .FlagActor _ _ => self
  | .NarrativeEvent _ => self
  | .EconomyAdjust _ _ => self

/-- Every shard visits its maps in an order of its own and reads the clock itself. -/
def tick (self : ShardedEngine shardCount) (ord : Fin shardCount → Order)
    (clock : Fin shardCount → SessionId → UInt64) : ShardedEngine shardCount :=
  { self with
    globalTick := self.globalTick + 1
    shards := fun idx => (self.shards idx).tick (ord idx) (clock idx) }

-- the drain of the delta pump that was started for `session`
def drainSession (self : ShardedEngine shardCount) (session : SessionId) :
    List SessionFrame × ShardedEngine shardCount :=
  match self.sessionToShard.lookup session with
  | some idx =>
      let (frames, shard) := (self.shards idx).drainSession session
      (frames, self.setShard idx shard)
  | none => ([], self)

/-! ## Accessors -/

def tickCount (self : ShardedEngine shardCount) : UInt64 := self.globalTick

def actorCount (self : ShardedEngine shardCount) : Nat :=
  ((List.finRange shardCount).map fun idx => (self.shards idx).actorCount).sum

def sessionCount (self : ShardedEngine shardCount) : Nat :=
  ((List.finRange shardCount).map fun idx => (self.shards idx).sessionCount).sum

def fullSnapshot (self : ShardedEngine shardCount) (ord : Fin shardCount → Order) : List ActorState :=
  (List.finRange shardCount).flatMap fun idx => (self.shards idx).fullSnapshot (ord idx)

def worldSnapshotForPersist (self : ShardedEngine shardCount) (ord : Fin shardCount → Order) (now : UInt64) :
    WorldSnapshot where
  tick := self.globalTick
  timestampMs := now
  -- the time stamps of the shards' own snapshots are dropped
  actors := (List.finRange shardCount).flatMap fun idx =>
    ((self.shards idx).worldSnapshotForPersist (ord idx) now).actors

end ShardedEngine

end LiveWorld

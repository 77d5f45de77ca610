import LiveWorld.Shard
import LiveWorld.Spec.EngineRun

/-!
# Runs of the sharded engine

Nothing restricts the calls here: ids may be used again, and any message may be sent through any handle.
What a tick owes the sessions and the fighters is stated for all shards together.
-/

namespace LiveWorld.Spec
open HashTable
variable {shardCount : Nat}

inductive ShardCall (shardCount : Nat) : Type 1
  | spawnActorForSession (ord : Order) (spec : ActorSpec) (session : SessionId)
  | spawnActorStandalone (spec : ActorSpec)
  | removeSession (session : SessionId) (despawn : Bool)
  | send (handle : ShardHandle shardCount) (msg : ActorMessage)
  | applyDirective (directive : WorldDirective)
  | drainSession (session : SessionId)
  | tick (ord : Fin shardCount → Order) (clock : Fin shardCount → SessionId → UInt64)

namespace ShardCall

def apply (engine : ShardedEngine shardCount) : ShardCall shardCount → ShardedEngine shardCount
  | .spawnActorForSession ord spec session => (engine.spawnActorForSession ord spec session).2
  | .spawnActorStandalone spec => (engine.spawnActorStandalone spec).2
  | .removeSession session despawn => engine.removeSession session despawn
  | .send handle msg => (engine.send handle msg).2
  | .applyDirective directive => engine.applyDirective directive
  | .drainSession session => (engine.drainSession session).2
  | .tick ord clock => engine.tick ord clock

def spawned : ShardCall shardCount → Option ActorSpec
  | .spawnActorForSession _ spec _ => some spec
  | .spawnActorStandalone spec => some spec
  | _ => none

def registered : ShardCall shardCount → Option SessionId
  | .spawnActorForSession _ _ session => some session
  | _ => none

def sent : ShardCall shardCount → Option ActorMessage
  | .send _ msg => some msg
  | .applyDirective (.ForceMove _ dest) => some (.Move dest)
  | _ => none

def isTick : ShardCall shardCount → Bool
  | .tick _ _ => true
  | _ => false

end ShardCall

def EngineCall.registered : EngineCall → Option SessionId
  | .spawnActorForSession _ _ session => some session
  | _ => none

abbrev ShardReachable (cfg : WorldConfig) (atLeastOne : shardCount ≥ 1)
    (allowed : ShardedEngine shardCount → ShardCall shardCount → Prop) : ShardedEngine shardCount → Prop :=
  Transition.Reachable (· = ShardedEngine.new cfg atLeastOne) allowed fun engine call => some (call.apply engine)

/-! ## Visibility -/

/-- The last frame of every session is a delta of this tick with all actors around the session's anchor. -/
def SeesAllShards (radius : Int) (engine : ShardedEngine shardCount) : Prop :=
  ∀ shard session anchor cell mine,
    (engine.shards shard).interest.sessionAnchors.lookup session = some (anchor, cell) →
    (engine.shards shard).runtime.actors.lookup anchor = some mine →
    ∀ there id actor, (engine.shards there).runtime.actors.lookup id = some actor →
      actor.state.cell.chebyshev mine.state.cell ≤ radius →
      ∃ queue delta, (engine.shards shard).sessionQueues.lookup session = some queue ∧
        queue.getLast? = some (.Delta delta) ∧ delta.tick = engine.globalTick ∧ actor.state ∈ delta.updates

/-- Where the moves in an inbox take an actor that is in `cell`. -/
def restingCell (cellSize : Rat) : GridCell → List ActorMessage → GridCell
  | cell, [] => cell
  | _, .Move dest :: rest => restingCell cellSize (dest.toGridCell cellSize) rest
  | cell, _ :: rest => restingCell cellSize cell rest

def bound (engine : WorldEngine) (actor : Actor) : GridCell :=
  restingCell engine.runtime.grid.cellSize actor.state.cell (engine.runtime.inboxes.pending actor.inbox)

def Staying (engine : WorldEngine) (actor : Actor) : Prop :=
  .Shutdown ∉ engine.runtime.inboxes.pending actor.inbox

/-- No actor of another shard is bound for the surroundings of a session's anchor. -/
def NobodyAcross (radius : Int) (engine : ShardedEngine shardCount) : Prop :=
  ∀ shard session anchor cell mine,
    (engine.shards shard).interest.sessionAnchors.lookup session = some (anchor, cell) →
    (engine.shards shard).runtime.actors.lookup anchor = some mine → Staying (engine.shards shard) mine →
    ∀ there, there ≠ shard → ∀ id actor, (engine.shards there).runtime.actors.lookup id = some actor →
      Staying (engine.shards there) actor →
      radius < (bound (engine.shards there) actor).chebyshev (bound (engine.shards shard) mine)

/-- A session anchored at the id `spec` is spawned under has its window where `spec` is spawned. -/
def InView (engine : WorldEngine) (spec : ActorSpec) (registered : Option SessionId) : Prop :=
  ∀ session cell, registered ≠ some session →
    engine.interest.sessionAnchors.lookup session = some (spec.id, cell) →
    cell = spec.position.toGridCell engine.runtime.grid.cellSize

/-- An id that a session still watches is not used again for an actor elsewhere. -/
def SpawnsInView (engine : ShardedEngine shardCount) (call : ShardCall shardCount) : Prop :=
  ∀ spec ∈ call.spawned, InView (engine.shards (engine.shardIdx spec.position.x)) spec call.registered

/-! ## Combat -/

/-- The shards while `shard` processes its effects: those before it have ticked, those after it have not. -/
def during (engine : ShardedEngine shardCount) (ord : Fin shardCount → Order)
    (clock : Fin shardCount → SessionId → UInt64) (shard : Fin shardCount) (now : WorldEngine) (there : Fin shardCount) :
    WorldEngine :=
  if there < shard then (engine.shards there).tick (ord there) (clock there)
  else if there = shard then now
  else engine.shards there

/-- An attack comes up among the effects of `shard`, on an actor of `home` whose inbox has room. -/
structure Strike (engine : ShardedEngine shardCount) (ord : Fin shardCount → Order)
    (clock : Fin shardCount → SessionId → UInt64) where
  shard : Fin shardCount
  home : Fin shardCount
  earlier : List ActorEffect
  later : List ActorEffect
  attacker : ActorState
  target : ActorState
  victim : Actor

namespace Strike
variable {engine : ShardedEngine shardCount} {ord : Fin shardCount → Order}
  {clock : Fin shardCount → SessionId → UInt64} (strike : Strike engine ord clock)

def effect : ActorEffect := .Interact strike.attacker.id strike.target.id "ATTACK"

/-- The attacker's shard when the attack comes up. -/
def before : WorldEngine :=
  let shard := engine.shards strike.shard
  let tickCount := shard.tickCount + 1
  strike.earlier.foldl (WorldEngine.processEffect (ord strike.shard))
    { shard with tickCount, runtime := (shard.runtime.tick (ord strike.shard) tickCount).2 }

def after : WorldEngine := WorldEngine.processEffect (ord strike.shard) strike.before strike.effect

def inbox (now : WorldEngine) : List ActorMessage :=
  (during engine ord clock strike.shard now strike.home).runtime.inboxes.pending strike.victim.inbox

structure Valid : Prop where
  effects : ((engine.shards strike.shard).runtime.tick (ord strike.shard)
    ((engine.shards strike.shard).tickCount + 1)).1 = strike.earlier ++ strike.effect :: strike.later
  attackerSeen : strike.attacker ∈ (engine.shards strike.shard).prevSnapshot
  targetSeen : strike.target ∈ (engine.shards strike.home).prevSnapshot
  hostile : strike.attacker.faction.isHostileTo strike.target.faction = true
  live : (during engine ord clock strike.shard strike.before strike.home).runtime.actors.lookup strike.target.id =
    some strike.victim
  room : (strike.inbox strike.before).length < queueSize - 1

/-- The attack puts its damage into the target's inbox, and it is still there after the tick. -/
def Lands : Prop :=
  ∃ amount, strike.inbox strike.after =
      strike.inbox strike.before ++ [.TakeDamage amount strike.attacker.name] ∧
    .TakeDamage amount strike.attacker.name ∈
      ((engine.tick ord clock).shards strike.home).runtime.inboxes.pending strike.victim.inbox

end Strike

end LiveWorld.Spec

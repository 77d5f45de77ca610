import LiveWorld.Spec.Shard

/-!
# One engine and its shards side by side

A twin drives a single engine and a sharded one with the same calls. Both return a handle for each spawn, and
what is sent is sent through the handles of one spawn. `owner` remembers which actor each registered
session was spawned with.
-/

namespace LiveWorld.Spec
open HashTable
variable {shardCount : Nat}

structure Twin (shardCount : Nat) where
  single : WorldEngine
  sharded : ShardedEngine shardCount
  handles : List (ActorHandle × ShardHandle shardCount)
  owner : SessionId → Option ActorId

inductive ApiCall (shardCount : Nat) : Type 1
  | spawnActorForSession (ord shardOrd : Order) (spec : ActorSpec) (session : SessionId)
  | spawnActorStandalone (spec : ActorSpec)
  | removeSession (session : SessionId) (despawn : Bool)
  | send (spawn : Nat) (msg : ActorMessage)
  | applyDirective (directive : WorldDirective)
  | drainSession (session : SessionId)
  | tick (ord : Order) (clock : SessionId → UInt64) (shardOrd : Fin shardCount → Order)
      (shardClock : Fin shardCount → SessionId → UInt64)

namespace ApiCall

def spawned : ApiCall shardCount → Option ActorSpec
  | .spawnActorForSession _ _ spec _ => some spec
  | .spawnActorStandalone spec => some spec
  | _ => none

def registered : ApiCall shardCount → Option SessionId
  | .spawnActorForSession _ _ _ session => some session
  | _ => none

def sent : ApiCall shardCount → Option ActorMessage
  | .send _ msg => some msg
  | .applyDirective (.ForceMove _ dest) => some (.Move dest)
  | _ => none

def isTick : ApiCall shardCount → Bool
  | .tick _ _ _ _ => true
  | _ => false

end ApiCall

namespace Twin

def start (cfg : WorldConfig) (atLeastOne : shardCount ≥ 1) : Twin shardCount :=
  ⟨WorldEngine.new cfg, ShardedEngine.new cfg atLeastOne, [], fun _ => none⟩

def next (t : Twin shardCount) : ApiCall shardCount → Twin shardCount
  | .spawnActorForSession ord shardOrd spec session =>
      let (handle, single) := t.single.spawnActorForSession ord spec session
      let (shardHandle, sharded) := t.sharded.spawnActorForSession shardOrd spec session
      ⟨single, sharded, t.handles ++ [(handle, shardHandle)], Function.update t.owner session (some spec.id)⟩
  | .spawnActorStandalone spec =>
      let (handle, single) := t.single.spawnActorStandalone spec
      let (shardHandle, sharded) := t.sharded.spawnActorStandalone spec
      ⟨single, sharded, t.handles ++ [(handle, shardHandle)], t.owner⟩
  | .removeSession session despawn =>
      { t with
        single := t.single.removeSession session despawn
        sharded := t.sharded.removeSession session despawn
        owner := Function.update t.owner session none }
  | .send spawn msg =>
      match t.handles[spawn]? with
      | some (handle, shardHandle) =>
          { t with single := (t.single.send handle msg).2, sharded := (t.sharded.send shardHandle msg).2 }
      | none => t
  | .applyDirective directive =>
      { t with single := t.single.applyDirective directive, sharded := t.sharded.applyDirective directive }
  | .drainSession session =>
      { t with single := (t.single.drainSession session).2, sharded := (t.sharded.drainSession session).2 }
  | .tick ord clock shardOrd shardClock =>
      { t with single := t.single.tick ord clock, sharded := t.sharded.tick shardOrd shardClock }

end Twin

abbrev TwinReachable (cfg : WorldConfig) (atLeastOne : shardCount ≥ 1)
    (allowed : Twin shardCount → ApiCall shardCount → Prop) : Twin shardCount → Prop :=
  Transition.Reachable (· = Twin.start cfg atLeastOne) allowed fun t call => some (t.next call)

/-! ## Directives -/

def inboxOf (engine : WorldEngine) (id : ActorId) : List ActorMessage :=
  ((engine.runtime.actors.lookup id).map fun actor => engine.runtime.inboxes.pending actor.inbox).getD []

def newMessages (before after : WorldEngine) (id : ActorId) : List ActorMessage :=
  (inboxOf after id).drop (inboxOf before id).length

/-- The directive does to the queues and inboxes of all shards together what it does to those of the single engine. -/
structure DirectiveAgrees (t : Twin shardCount) (directive : WorldDirective) : Prop where
  frames : ∀ session, newFrames t.single (t.single.applyDirective directive) session =
    (List.finRange shardCount).flatMap fun shard =>
      newFrames (t.sharded.shards shard) ((t.sharded.applyDirective directive).shards shard) session
  messages : ∀ id, newMessages t.single (t.single.applyDirective directive) id =
    (List.finRange shardCount).flatMap fun shard =>
      newMessages (t.sharded.shards shard) ((t.sharded.applyDirective directive).shards shard) id
  narrated : ∀ message, directive = .NarrativeEvent message → ∀ shard session queue,
    (t.sharded.shards shard).sessionQueues.lookup session = some queue → queue.length < 64 →
    ((t.sharded.applyDirective directive).shards shard).sessionQueues.lookup session =
      some (queue ++ [.WorldEvent message])

def HasRoom (engine : WorldEngine) (id : ActorId) : Prop :=
  ∃ actor, engine.runtime.actors.lookup id = some actor ∧
    (engine.runtime.inboxes.pending actor.inbox).length < queueSize - 1

def QueuesFull (engine : WorldEngine) : Prop :=
  ∀ session queue, engine.sessionQueues.lookup session = some queue → 64 ≤ queue.length

/-- A narrative event finds no queue that could take it, and an actor that is told to move has room for the message in
both engines or in neither. -/
def SameRoom (t : Twin shardCount) : WorldDirective → Prop
  | .ForceMove id _ => HasRoom t.single id ↔ ∃ shard, HasRoom (t.sharded.shards shard) id
  | .NarrativeEvent _ => QueuesFull t.single ∧ ∀ shard, QueuesFull (t.sharded.shards shard)
  | .FlagActor _ _ => True
  | .EconomyAdjust _ _ => True

/-! ## Worlds without fights -/

def Peaceful (msg : ActorMessage) : Prop := msg ≠ .Shutdown ∧ ∀ target, msg ≠ .Interact target "ATTACK"

/-- Ids of live actors and of registered sessions are not given away again, and nobody attacks or shuts down. -/
structure AtPeace (t : Twin shardCount) (call : ApiCall shardCount) : Prop where
  newActor : ∀ spec ∈ call.spawned, spec.id ∉ t.single.runtime.actors
  newSession : ∀ session ∈ call.registered, session ∉ t.single.sessionQueues
  peaceful : ∀ msg ∈ call.sent, Peaceful msg

/-- `after` is `before` without the actor of `session`. -/
def DespawnsOwner (t : Twin shardCount) (session : SessionId) (before after : WorldEngine) : Prop :=
  ∀ id, after.runtime.actors.lookup id =
    if t.owner session = some id then none else before.runtime.actors.lookup id

structure SameWorld (t : Twin shardCount) : Prop where
  fullSnapshot : ∀ ord shardOrd, (t.single.fullSnapshot ord).Perm (t.sharded.fullSnapshot shardOrd)
  actorCount : t.single.actorCount = t.sharded.actorCount
  sessionCount : t.single.sessionCount = t.sharded.sessionCount
  tickCount : t.single.tickCount = t.sharded.tickCount
  persisted : ∀ ord shardOrd now, (t.single.worldSnapshotForPersist ord now).actors.Perm
    (t.sharded.worldSnapshotForPersist shardOrd now).actors
  someShard : ∀ id, id ∈ t.single.runtime.actors ↔ ∃ shard, id ∈ (t.sharded.shards shard).runtime.actors
  oneShard : ∀ id shard shard', id ∈ (t.sharded.shards shard).runtime.actors →
    id ∈ (t.sharded.shards shard').runtime.actors → shard = shard'
  ownerLives : ∀ session id, t.owner session = some id → id ∈ t.single.runtime.actors
  removal : ∀ session, DespawnsOwner t session t.single (t.single.removeSession session true) ∧
    ∀ shard, DespawnsOwner t session (t.sharded.shards shard) ((t.sharded.removeSession session true).shards shard)

end LiveWorld.Spec

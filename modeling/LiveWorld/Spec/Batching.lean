import LiveWorld.Spec.Cells

/-!
# Messages in batches

The same messages reach an actor in one tick, or in several ticks.
-/

namespace LiveWorld.Spec
open HashTable Machine

/-- What is in the inbox when a tick drains it. -/
structure Batch : Type 1 where
  messages : List ActorMessage
  ord : Order
  tickNum : UInt64

def drainBatch (ref : QueueRef) (rt : ActorRuntime) (batch : Batch) : ActorRuntime :=
  ({ rt with inboxes := rt.inboxes.set ref batch.messages }.tick batch.ord batch.tickNum).2

structure Outcome where
  position : Position
  cell : GridCell
  hp : UInt8
  xp : UInt32
  level : UInt8
  lastUtterance : Option String
  deriving DecidableEq, Repr

def outcome (actor : Actor) : Outcome :=
  ⟨actor.state.position, actor.state.cell, actor.state.hp, actor.state.xp, actor.state.level, actor.state.lastUtterance⟩

def outcomeOf (rt : ActorRuntime) (id : ActorId) : Option Outcome := (rt.actors.lookup id).map outcome

/-- The hit points after the damage in `messages`. -/
def hpAfter (maxHp : UInt8) : UInt8 → List ActorMessage → UInt8
  | hp, [] => hp
  | hp, .TakeDamage amount _ :: rest =>
      let left := saturatingSub8 hp amount
      hpAfter maxHp (if left = 0 then maxHp else left) rest
  | hp, _ :: rest => hpAfter maxHp hp rest

/-- The damage in `messages` kills at least once. -/
def dies : UInt8 → List ActorMessage → Bool
  | _, [] => false
  | hp, .TakeDamage amount _ :: rest =>
      let left := saturatingSub8 hp amount
      if left = 0 then true else dies left rest
  | hp, _ :: rest => dies hp rest

structure BatchingIndependent (rt : ActorRuntime) (id : ActorId) (actor : Actor) (messages : List ActorMessage) :
    Prop where
  split : ∀ whole : Batch, whole.messages = messages → ∀ batches : List Batch,
    (batches.map Batch.messages).flatten = messages →
    outcomeOf (batches.foldl (drainBatch actor.inbox) rt) id = outcomeOf (drainBatch actor.inbox rt whole) id
  respawn : ∀ whole : Batch, whole.messages = messages → ∀ before amount fromName after,
    messages = before ++ .TakeDamage amount fromName :: after → pendingMove after = false →
    saturatingSub8 (hpAfter actor.state.maxHp actor.state.hp before) amount = 0 →
    (outcomeOf (drainBatch actor.inbox rt whole) id).map Outcome.position = some actor.spec.position

/-- Whoever is killed after the last move was told to move to its birth place. -/
def KilledAtHome (actor : Actor) (messages : List ActorMessage) : Prop :=
  ∀ before dest after, messages = before ++ .Move dest :: after → pendingMove after = false →
    dies (hpAfter actor.state.maxHp actor.state.hp before) after = true → dest = actor.spec.position

end LiveWorld.Spec

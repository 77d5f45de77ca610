import LiveWorld.Spec.War

/-!
# Orders and what becomes of them

An order is a civil message that the engine accepts for an actor, through a handle that it has given out or for a
directive. A `Docket` keeps the orders of a chronicle, those of before the last tick apart from those since.
-/

namespace LiveWorld.Spec
open HashTable

def EngineCall.through : EngineCall → Option ActorHandle
  | .send handle _ => some handle
  | _ => none

structure Docket where
  chronicle : Chronicle
  handles : List ActorHandle
  settled : List (ActorId × ActorMessage)
  /-- since the last tick -/
  recent : List (ActorId × ActorMessage)

namespace Docket

def start (cfg : WorldConfig) : Docket := ⟨Chronicle.start cfg, [], [], []⟩

/-- The handle that a call returns. -/
def granted (engine : WorldEngine) : EngineCall → Option ActorHandle
  | .spawnActorForSession ord spec session => some (engine.spawnActorForSession ord spec session).1
  | .spawnActorStandalone spec => some (engine.spawnActorStandalone spec).1
  | _ => none

def accepted (engine : WorldEngine) : EngineCall → Option (ActorId × ActorMessage)
  | .send handle msg => if (engine.send handle msg).1 then some (handle.id, msg) else none
  | .applyDirective (.ForceMove id dest) => if (engine.sendToActor id (.Move dest)).1 then some (id, .Move dest) else none
  | _ => none

def next (d : Docket) (call : EngineCall) : Docket :=
  let engine := d.chronicle.world.engine
  { chronicle := d.chronicle.next call
    handles := (granted engine call).toList ++ d.handles
    settled := if call.isTick then d.settled ++ d.recent else d.settled
    recent := if call.isTick then [] else d.recent ++ (accepted engine call).toList }

def Allowed (d : Docket) (call : EngineCall) : Prop :=
  d.chronicle.Allowed call ∧ ∀ handle ∈ call.through, handle ∈ d.handles

instance (d : Docket) (call : EngineCall) : Decidable (d.Allowed call) :=
  inferInstanceAs (Decidable (d.chronicle.Allowed call ∧ ∀ handle ∈ call.through, handle ∈ d.handles))

end Docket

abbrev DocketReachable (cfg : WorldConfig) : Docket → Prop :=
  Transition.Reachable (· = Docket.start cfg) Docket.Allowed fun d call => some (d.next call)

/-! ## What is carried out -/

def ordersTo (id : ActorId) (orders : List (ActorId × ActorMessage)) : List ActorMessage :=
  (orders.filter fun order => decide (order.1 = id)).map Prod.snd

/-- The order that an effect carries out. -/
def orderOf : ActorEffect → Option ActorMessage
  | .Move _ dest => some (.Move dest)
  | .Speak _ text => some (.Speak text)
  | .Interact _ target action => some (.Interact target action)
  | _ => none

def destination : ActorEffect → Option Position
  | .Move _ dest => some dest
  | _ => none

def utterance : ActorEffect → Option String
  | .Speak _ text => some text
  | _ => none

def isDeath : ActorEffect → Bool
  | .Died _ _ _ => true
  | _ => false

/-- Every order of before the last tick has had its effect, once and in turn, and the last of each kind shows. -/
structure Obedient (id : ActorId) (actor : Actor) (d : Docket) : Prop where
  inTurn : (effectsFrom id d.chronicle.log).filterMap orderOf = ordersTo id d.settled
  utterance : actor.state.lastUtterance = ((effectsFrom id d.chronicle.log).filterMap utterance).getLast?
  /-- who dies is taken back to where it was born -/
  place : (effectsFrom id d.chronicle.log).any isDeath = false →
    actor.state.position = (((effectsFrom id d.chronicle.log).filterMap destination).getLast?).getD actor.spec.position

end LiveWorld.Spec

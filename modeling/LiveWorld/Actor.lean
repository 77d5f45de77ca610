import LiveWorld.Types
import Mathlib.Logic.Function.Basic

/-!
# Actors

An actor owns the consumer of its inbox, and any number of handles hold the producer. Both sides name
the shared ring by a reference into `Inboxes`, where each ring is the FIFO list of its pending
messages. `Proof/SpscQueue/Refinement` shows that the ring buffer behaves as this list.
-/

namespace LiveWorld
open Machine

def queueSize : Nat := 1024

abbrev QueueRef := Nat

structure Inboxes where
  next : QueueRef
  pending : QueueRef → List ActorMessage

namespace Inboxes

def empty : Inboxes := ⟨0, fun _ => []⟩

-- `spsc_queue()`: a ring that nothing refers to yet
def allocate (self : Inboxes) : QueueRef × Inboxes :=
  (self.next, ⟨self.next + 1, Function.update self.pending self.next []⟩)

def set (self : Inboxes) (ref : QueueRef) (messages : List ActorMessage) : Inboxes :=
  { self with pending := Function.update self.pending ref messages }

end Inboxes

inductive ActorLifecycle
  | Spawning
  | Active
  | ShuttingDown
  | Dead
  deriving DecidableEq, Repr

structure Actor where
  spec : ActorSpec
  state : ActorState
  lifecycle : ActorLifecycle
  inbox : QueueRef
  deriving DecidableEq, Repr

structure ActorHandle where
  id : ActorId
  sender : QueueRef
  deriving DecidableEq, Repr

-- one slot of the ring stays free, so `queueSize - 1` messages fit
def ActorHandle.send (self : ActorHandle) (inboxes : Inboxes) (msg : ActorMessage) : Bool × Inboxes :=
  let messages := inboxes.pending self.sender
  if messages.length < queueSize - 1 then (true, inboxes.set self.sender (messages ++ [msg]))
  else (false, inboxes)

inductive ActorEffect
  | Move (id : ActorId) (dest : Position)
  | Speak (id : ActorId) (text : String)
  | Interact (source target : ActorId) (action : String)
  | Damaged (id : ActorId) (newHp : UInt8)
  | Died (id : ActorId) (name killerName : String)
  | LevelUp (id : ActorId) (name : String) (level : UInt8)
  deriving DecidableEq, Repr

namespace Actor

def hitPoints : ActorRole → UInt8 × UInt8
  | .Knight | .Guard => (100, 100)
  | .Mage | .Scholar => (60, 60)
  | _ => (80, 80)

def spawn (inboxes : Inboxes) (spec : ActorSpec) : (Actor × ActorHandle) × Inboxes :=
  let (ref, inboxes) := inboxes.allocate
  let (hp, maxHp) := hitPoints spec.role
  let initialState : ActorState :=
    { id := spec.id
      name := spec.name
      position := spec.position
      cell := spec.position.toGridCell 10
      tick := 0
      lastUtterance := none
      role := spec.role
      faction := spec.faction
      hp := hp
      maxHp := maxHp
      xp := 0
      level := 1 }
  ((⟨spec, initialState, .Spawning, ref⟩, ⟨spec.id, ref⟩), inboxes)

def activate (self : Actor) (cell : GridCell) : Actor :=
  { self with state := { self.state with cell }, lifecycle := .Active }

def takeDamage (self : Actor) (amount : UInt8) (fromName : String) : Actor × List ActorEffect :=
  let hp := saturatingSub8 self.state.hp amount
  if hp = 0 then
    -- respawn at the birth position with full hit points
    ({ self with state := { self.state with hp := self.state.maxHp, position := self.spec.position } },
      [.Died self.spec.id self.spec.name fromName])
  else ({ self with state := { self.state with hp } }, [.Damaged self.spec.id hp])

def gainXp (self : Actor) (amount : UInt32) : Actor × List ActorEffect :=
  let xp := saturatingAdd32 self.state.xp amount
  let newLevel := min ((xp / 100).toUInt8 + 1) 10
  if newLevel > self.state.level then
    ({ self with state := { self.state with xp, level := newLevel } },
      [.LevelUp self.spec.id self.spec.name newLevel])
  else ({ self with state := { self.state with xp } }, [])

def handleMessage (self : Actor) : ActorMessage → Actor × List ActorEffect
  | .Move dest => (self, [.Move self.spec.id dest])
  | .Speak text =>
      ({ self with state := { self.state with lastUtterance := some text } }, [.Speak self.spec.id text])
  | .Interact target action => (self, [.Interact self.spec.id target action])
  | .TakeDamage amount fromName => self.takeDamage amount fromName
  | .GainXp amount => self.gainXp amount
  | .Shutdown => ({ self with lifecycle := .ShuttingDown }, [])

/-- The actor, its effects, and the messages left in the inbox (those after a `Shutdown`). -/
def drainInbox (self : Actor) : List ActorMessage → Actor × List ActorEffect × List ActorMessage
  | [] => (self, [], [])
  | msg :: rest =>
      let (actor, effects) := self.handleMessage msg
      if msg = .Shutdown then (actor, effects, rest)
      else
        let (actor, more, left) := actor.drainInbox rest
        (actor, effects ++ more, left)

def applyMove (self : Actor) (dest : Position) (newCell : GridCell) : Actor :=
  { self with state := { self.state with position := dest, cell := newCell } }

def tick (self : Actor) (tick : UInt64) : Actor :=
  { self with state := { self.state with tick } }

def snapshot (self : Actor) : ActorState := self.state

def id (self : Actor) : ActorId := self.spec.id

def isAlive (self : Actor) : Bool :=
  match self.lifecycle with
  | .Active | .Spawning => true
  | _ => false

end Actor

end LiveWorld

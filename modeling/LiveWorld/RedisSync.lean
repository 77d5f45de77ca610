import LiveWorld.Lib.KeyedMap
import LiveWorld.Types

/-!
# Sharing actor states between pods

A pod's `SharedSnapshot` is written by its tick loop and by its subscriber, and read by its publisher.
`publish` is one iteration of the publisher's loop, `receive` what the subscriber does with one message.
-/

namespace LiveWorld
open HashTable

/-- Every state is stored under its own id. -/
abbrev SharedSnapshot := KeyedMap ActorState.id

structure SyncPayload where
  podId : String
  updates : List ActorState
  removed : List ActorId
  deriving DecidableEq, Repr

/-! ## The tick loop -/

def idsOf (states : List ActorState) : HashSet ActorId := states.foldl (fun ids s => ids.insert s.id ()) ∅

def mergeLocal (shared : SharedSnapshot) (prevLocalIds : HashSet ActorId) (states : List ActorState) :
    SharedSnapshot × HashSet ActorId :=
  let localIds := idsOf states
  let shared := shared.retain fun id => !decide (id ∈ prevLocalIds) || decide (id ∈ localIds)
  (states.foldl KeyedMap.insert shared, localIds)

/-! ## The publisher -/

def reconnectBaseMs : Nat := 500

def reconnectMaxMs : Nat := 30000

/-- How the outside world answers one iteration. -/
structure Attempt where
  connects : Bool
  serialises : Bool
  publishes : Bool
  deriving DecidableEq, Repr

structure Publisher where
  prev : SharedSnapshot
  backoffMs : Nat

namespace Publisher

def new : Publisher := ⟨.empty, reconnectBaseMs⟩

/-- The payload that reaches the channel, if any does. -/
def publish (self : Publisher) (ord : Order) (podId : String) (snap : SharedSnapshot) (attempt : Attempt) :
    Option SyncPayload × Publisher :=
  if !attempt.connects then (none, { self with backoffMs := min (self.backoffMs * 2) reconnectMaxMs })
  else
    let current := snap
    let updates := (current.values ord).filter fun s => decide (self.prev.lookup s.id ≠ some s)
    let removed := (self.prev.keys ord).filter fun id => decide (id ∉ current)
    let self : Publisher := ⟨current, reconnectBaseMs⟩
    if updates.isEmpty && removed.isEmpty then (none, self)
    else
      let payload : SyncPayload := ⟨podId, updates, removed⟩
      (if attempt.serialises && attempt.publishes then some payload else none, self)

end Publisher

/-! ## The subscriber -/

def applyRemoteDelta (snap : SharedSnapshot) (updates : List ActorState) (removed : List ActorId) :
    SharedSnapshot :=
  let snap := removed.foldl KeyedMap.erase snap
  updates.foldl KeyedMap.orInsert snap

def receive (podId : String) (snap : SharedSnapshot) (payload : SyncPayload) : SharedSnapshot :=
  if payload.podId ≠ podId then applyRemoteDelta snap payload.updates payload.removed else snap

end LiveWorld

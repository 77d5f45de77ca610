import LiveWorld.Types

namespace LiveWorld
open HashTable

/-- `f32::EPSILON`. -/
def epsilon : Rat := 1 / 8388608

/-- The fields `diff_states` compares; the others only travel along. -/
def changedState (prev curr : ActorState) : Bool :=
  decide (|prev.position.x - curr.position.x| > epsilon) ||
    decide (|prev.position.y - curr.position.y| > epsilon) ||
    decide (prev.lastUtterance ≠ curr.lastUtterance) ||
    decide (prev.tick ≠ curr.tick)

def diffStates (ord : Order) (previous current : List ActorState) : List ActorState × List ActorId :=
  let prevMap := HashMap.collect ActorState.id previous
  let currMap := HashMap.collect ActorState.id current
  let changed := (ord.visit currMap.entries).filterMap fun entry =>
    match prevMap.lookup entry.1 with
    | none => some entry.2
    | some prev => if changedState prev entry.2 then some entry.2 else none
  let removed := (ord.visit prevMap.keys).filter fun id => decide (id ∉ currMap)
  (changed, removed)

end LiveWorld

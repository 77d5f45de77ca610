import LiveWorld.Spec.Bookkeeping
import LiveWorld.Spec.EngineRun

/-!
# Positions and cells

An actor's cell is kept in its state, in the grid and in the windows of the sessions anchored at it.
-/

namespace LiveWorld.Spec
open HashTable

structure CellsAgree (cellSize : Rat) (engine : WorldEngine) (id : ActorId) (actor : Actor) : Prop where
  state : actor.state.cell = actor.state.position.toGridCell cellSize
  grid : ∀ cell, Filed engine.runtime.grid cell id ↔ cell = actor.state.position.toGridCell cellSize
  window : ∀ session cell, engine.interest.sessionAnchors.lookup session = some (id, cell) →
    cell = actor.state.position.toGridCell cellSize

def pendingDamage : List ActorMessage → Nat
  | [] => 0
  | .TakeDamage amount _ :: rest => amount.toNat + pendingDamage rest
  | _ :: rest => pendingDamage rest

def pendingMove : List ActorMessage → Bool
  | [] => false
  | .Move _ :: _ => true
  | _ :: rest => pendingMove rest

/-- Whoever dies in the next tick also moves in it, or was born in the cell it is in. -/
def RespawnsInPlace (cellSize : Rat) (engine : WorldEngine) : Prop :=
  ∀ id actor, engine.runtime.actors.lookup id = some actor →
    pendingDamage (engine.runtime.inboxes.pending actor.inbox) < actor.state.hp.toNat ∨
      pendingMove (engine.runtime.inboxes.pending actor.inbox) = true ∨
      actor.spec.position.toGridCell cellSize = actor.state.cell

def Running (w : World) (call : EngineCall) : Prop := w.Distinct call ∧ call.sent ≠ some .Shutdown

def Grounded (cellSize : Rat) (w : World) (call : EngineCall) : Prop :=
  Running w call ∧ (call.isTick = true → RespawnsInPlace cellSize w.engine)

end LiveWorld.Spec

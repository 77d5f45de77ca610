import LiveWorld.Spec.Bounds

/-!
# The reach of the interest windows

A window is looked up cell by cell, at all offsets up to the radius around its centre.
-/

namespace LiveWorld.Spec
open HashTable Machine

def FitsI32 (z : Int) : Prop := minI32 ≤ z ∧ z ≤ maxI32

instance FitsI32.decidable (z : Int) : Decidable (FitsI32 z) := inferInstanceAs (Decidable (_ ∧ _))

/-- No addition of `query_radius` leaves the `i32` range when the engine ticks. -/
def QueriesFit (engine : WorldEngine) (ord : Order) : Prop :=
  ∀ session anchor center, (engine.applyEffects ord).interest.sessionAnchors.lookup session = some (anchor, center) →
    ∀ offset ∈ rangeInclusive (-engine.interest.radius) engine.interest.radius,
      FitsI32 (center.x + offset) ∧ FitsI32 (center.y + offset)

/-- Around its cell there is room for a window. -/
def Roomy (cfg : WorldConfig) (pos : Position) : Prop :=
  (FitsI32 ((pos.toGridCell cfg.cellSize).x - cfg.interestRadius) ∧
      FitsI32 ((pos.toGridCell cfg.cellSize).x + cfg.interestRadius)) ∧
    FitsI32 ((pos.toGridCell cfg.cellSize).y - cfg.interestRadius) ∧
      FitsI32 ((pos.toGridCell cfg.cellSize).y + cfg.interestRadius)

instance Roomy.decidable (cfg : WorldConfig) (pos : Position) : Decidable (Roomy cfg pos) :=
  inferInstanceAs (Decidable ((_ ∧ _) ∧ _ ∧ _))

def namesRoomyPlace (cfg : WorldConfig) : AgentAction → Bool
  | .Move (.finite x) (.finite y) => decide (Roomy cfg ⟨x, y⟩)
  | .Move _ _ => false
  | _ => true

def KeepsRoom (cfg : WorldConfig) : SystemStep → Prop
  | .decision _ _ _ text => namesRoomyPlace cfg (parseAction text) = true
  | _ => True

abbrev Stored := Except SnapshotError (Option WorldSnapshot)

def RestoresRoomy (cfg : WorldConfig) (stored : Stored) : Prop :=
  ∀ snapshot, stored = .ok (some snapshot) → ∀ spec ∈ restoreActors snapshot, Roomy cfg spec.position

/-- The states that the system gets to from a boot with `stored`. -/
abbrev RunsFrom (stored : Stored) (allowed : Server → SystemStep → Prop) : Server → Prop :=
  Transition.Reachable (· = Server.boot .default stored) allowed fun s step => some (step.apply s)

end LiveWorld.Spec

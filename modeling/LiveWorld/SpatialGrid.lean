import LiveWorld.Types

namespace LiveWorld
open HashTable Machine

structure SpatialGrid where
  cells : HashMap GridCell (HashSet ActorId)
  cellSize : Rat

namespace SpatialGrid

def new (cfg : WorldConfig) : SpatialGrid := ⟨∅, cfg.cellSize⟩

def cellOf (self : SpatialGrid) (pos : Position) : GridCell := pos.toGridCell self.cellSize

-- `self.cells.entry(cell).or_default().insert(id)`
def file (self : SpatialGrid) (id : ActorId) (cell : GridCell) : SpatialGrid :=
  { self with cells := self.cells.insert cell (((self.cells.lookup cell).getD ∅).insert id ()) }

def insert (self : SpatialGrid) (id : ActorId) (pos : Position) : GridCell × SpatialGrid :=
  let cell := self.cellOf pos
  (cell, self.file id cell)

def remove (self : SpatialGrid) (id : ActorId) (cell : GridCell) : Bool × SpatialGrid :=
  match self.cells.lookup cell with
  | some set =>
      let left := set.erase id
      (decide (id ∈ set),
        { self with
          cells := if left.entries.isEmpty then self.cells.erase cell else self.cells.insert cell left })
  | none => (false, self)

def moveActor (self : SpatialGrid) (id : ActorId) (oldCell : GridCell) (newPos : Position) :
    GridCell × SpatialGrid :=
  let newCell := self.cellOf newPos
  if oldCell = newCell then (newCell, self)
  else (newCell, (self.remove id oldCell).2.file id newCell)

def idsIn (self : SpatialGrid) (ord : Order) (cell : GridCell) : List ActorId :=
  match self.cells.lookup cell with
  | some set => ord.visit set.keys
  | none => []

/-- All ids in cells within Chebyshev distance `radius`; the `i32` additions wrap. -/
def queryRadius (self : SpatialGrid) (ord : Order) (center : GridCell) (radius : Int) : List ActorId :=
  (rangeInclusive (wrapI32 (-radius)) radius).flatMap fun dx =>
    (rangeInclusive (wrapI32 (-radius)) radius).flatMap fun dy =>
      self.idsIn ord ⟨wrapI32 (center.x + dx), wrapI32 (center.y + dy)⟩

def totalActors (self : SpatialGrid) (ord : Order) : Nat :=
  ((HashMap.values ord self.cells).map fun set => HashMap.size set).sum

end SpatialGrid

end LiveWorld

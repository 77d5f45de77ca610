import LiveWorld.SpatialGrid

namespace LiveWorld
open HashTable

structure InterestManager where
  sessionAnchors : HashMap SessionId (ActorId × GridCell)
  radius : Int

namespace InterestManager

def new (radius : Int) : InterestManager := ⟨∅, radius⟩

def register (self : InterestManager) (session : SessionId) (anchor : ActorId) (cell : GridCell) :
    InterestManager :=
  { self with sessionAnchors := self.sessionAnchors.insert session (anchor, cell) }

def unregister (self : InterestManager) (session : SessionId) : InterestManager :=
  { self with sessionAnchors := self.sessionAnchors.erase session }

def updateCell (self : InterestManager) (session : SessionId) (newCell : GridCell) : InterestManager :=
  match self.sessionAnchors.lookup session with
  | some (anchor, _) => { self with sessionAnchors := self.sessionAnchors.insert session (anchor, newCell) }
  | none => self

def visibleActors (self : InterestManager) (ord : Order) (session : SessionId) (grid : SpatialGrid) :
    List ActorId :=
  match self.sessionAnchors.lookup session with
  | none => []
  | some (_, cell) => grid.queryRadius ord cell self.radius

def sessions (self : InterestManager) (ord : Order) : List (SessionId × ActorId × GridCell) :=
  (ord.visit self.sessionAnchors.entries).map fun entry => (entry.1, entry.2.1, entry.2.2)

end InterestManager

end LiveWorld

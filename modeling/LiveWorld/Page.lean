import LiveWorld.Lib.Padding
import LiveWorld.Types

/-!
# The buttons of the browser client

`handleMsg` as far as it concerns the actor of the page and its two buttons, and what the page sends for its user. The
connection is open: a page that loses it starts anew.
-/

namespace LiveWorld

structure Page where
  myActorId : Option ActorId
  /-- `btn-join` -/
  joinDisabled : Bool
  /-- `btn-leave` -/
  leaveDisabled : Bool
  deriving DecidableEq, Repr

/-- What stands in the fields when the button is pressed. -/
structure JoinForm where
  name : String
  personality : String
  backstory : String
  model : LlmModel
  role : ActorRole
  faction : Faction
  deriving DecidableEq, Repr

inductive PageAction
  /-- with two results of `Math.random` -/
  | joinWorld (form : JoinForm) (one two : Rat)
  | leaveWorld
  | sendChat (value : String)
  /-- on a cell of the map, with whether somebody is drawn there -/
  | onMapClick (col row : Int) (occupied : Bool)
  deriving DecidableEq, Repr

namespace Page

def new : Page := ⟨none, false, true⟩

-- white space and line terminators of `String.prototype.trim`
def isSpace (c : Char) : Bool :=
  let code := c.toNat
  (9 ≤ code && code ≤ 13) || code == 0x20 || code == 0xA0 || code == 0x1680 || (0x2000 ≤ code && code ≤ 0x200A) ||
    code == 0x2028 || code == 0x2029 || code == 0x202F || code == 0x205F || code == 0x3000 || code == 0xFEFF

def trim (text : String) : String := String.ofList (Padding.strip isSpace text.toList)

def mapCols : Int := 50

def mapRows : Int := 50

def worldTile : Rat := 200

def handleMsg (self : Page) : ServerMessage → Page
  | .ActorCreated actorId => { myActorId := some actorId, joinDisabled := true, leaveDisabled := false }
  | .Error code _ => if code = 409 then { self with joinDisabled := true, leaveDisabled := false } else self
  | .WorldDelta _ | .WorldEvent _ => self

/-- A disabled button does nothing. -/
def act (self : Page) : PageAction → Page × Option ClientCommand
  | .joinWorld form one two =>
      if self.joinDisabled then (self, none)
      else
        let name := if (trim form.name).isEmpty then "Wanderer" else trim form.name
        (self, some (.CreateActor name (trim form.personality) (trim form.backstory) form.model
          ⟨4500 + one * 1000, 4500 + two * 1000⟩ (some form.role) (some form.faction)))
  | .leaveWorld =>
      if self.leaveDisabled then (self, none)
      else
        match self.myActorId with
        | some id => ({ myActorId := none, joinDisabled := false, leaveDisabled := true }, some (.DestroyActor id))
        | none => (self, none)
  | .sendChat value =>
      match self.myActorId with
      | some id => (self, if (trim value).isEmpty then none else some (.ChatActor id (trim value)))
      | none => (self, none)
  | .onMapClick col row occupied =>
      if col < 0 ∨ col ≥ mapCols ∨ row < 0 ∨ row ≥ mapRows ∨ occupied = true then (self, none)
      else
        match self.myActorId with
        | some id => (self, some (.MoveActor id ⟨col * worldTile + worldTile / 2, row * worldTile + worldTile / 2⟩))
        | none => (self, none)

end Page

end LiveWorld

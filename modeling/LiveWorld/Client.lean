import LiveWorld.WorldEngine

/-!
# The browser client

`handleMsg` as far as it concerns the client's map of actors, and `handleWorldEvent` as far as it concerns its table
of territories.
-/

namespace LiveWorld
open HashTable

structure ClientActor where
  id : ActorId
  name : String
  wx : Rat
  wy : Rat
  col : Int
  row : Int
  utterance : Option String
  role : ActorRole
  faction : Faction
  hp : UInt8
  maxHp : UInt8
  xp : UInt32
  level : UInt8
  deriving DecidableEq, Repr

abbrev ClientMap := HashMap ActorId ClientActor

namespace Client

def worldTile : Rat := 200

def record (a : ActorState) : ClientActor where
  id := a.id
  name := a.name
  wx := a.position.x
  wy := a.position.y
  col := (a.position.x / worldTile).floor
  row := (a.position.y / worldTile).floor
  utterance := a.lastUtterance
  role := a.role
  faction := a.faction
  hp := a.hp
  maxHp := a.maxHp
  xp := a.xp
  level := a.level

def handleMsg (actors : ClientMap) : SessionFrame → ClientMap
  | .Delta delta =>
      let actors := delta.updates.foldl (fun actors a => actors.insert a.id (record a)) actors
      delta.removed.foldl (fun actors id => actors.erase id) actors
  | .WorldEvent _ => actors

def handleAll (actors : ClientMap) (frames : List SessionFrame) : ClientMap := frames.foldl handleMsg actors

/-! ## Territory -/

def zoneLabelToId : String → Option ZoneId
  | "Northern Forest" => some .NorthForest
  | "Eastern Desert" => some .EastDesert
  | "Western Coast" => some .WestCoast
  | "Southern Plains" => some .SouthPlain
  | "Central City" => some .CentralCity
  | "Mountain Border" => some .MountainBorder
  | "Wilderness" => some .Wilderness
  | _ => none

abbrev Territory := ZoneId → String

def territory : Territory
  | .NorthForest => "Empire"
  | .EastDesert => "WanderersGuild"
  | .WestCoast => "Alliance"
  | .SouthPlain => "Alliance"
  | .CentralCity => "Neutral"
  | .MountainBorder => "Empire"
  | .Wilderness => "Neutral"

-- `\w` and `.` of a regular expression
def isWord (c : Char) : Bool := c.isAlphanum || c == '_'

def isDot (c : Char) : Bool := !"\n\r\u2028\u2029".toList.contains c

def stripPrefix : List Char → List Char → Option (List Char)
  | [], text => some text
  | _ :: _, [] => none
  | c :: rest, d :: text => if c = d then stripPrefix rest text else none

/-- The groups of `^🏴 (\w+) has captured (.+)!$`. -/
def matchCapture (message : String) : Option (String × String) := do
  let text ← stripPrefix "🏴 ".toList message.toList
  let name := text.takeWhile isWord
  let zone ← stripPrefix " has captured ".toList (text.dropWhile isWord)
  if name ≠ [] ∧ zone.getLast? = some '!' ∧ zone.dropLast ≠ [] ∧ zone.dropLast.all isDot then
    some (String.ofList name, String.ofList zone.dropLast)
  else none

/-- Who a message says has captured which zone. -/
def capture (message : String) : Option (String × ZoneId) := do
  let (name, label) ← matchCapture message
  let zone ← zoneLabelToId label
  some (name, zone)

def handleWorldEvent (territory : Territory) (message : String) : Territory :=
  match capture message with
  | some (name, zone) => Function.update territory zone name
  | none => territory

def handleFrame (territory : Territory) : SessionFrame → Territory
  | .WorldEvent message => handleWorldEvent territory message
  | .Delta _ => territory

end Client

end LiveWorld

import LiveWorld.Lib.HashTable
import LiveWorld.Lib.Machine
import Mathlib.Algebra.Order.Ring.Rat

/-!
# The data model

Identifiers are 64-bit words, coordinates are rationals, and grid cells are pairs of integers in the
`i32` range.
-/

namespace LiveWorld
open Machine

structure ActorId where
  val : UInt64
  deriving DecidableEq, Repr

structure SessionId where
  val : UInt64
  deriving DecidableEq, Repr

structure GridCell where
  x : Int
  y : Int
  deriving DecidableEq, Repr

/-- `fetch_add(1)` on the process-wide counter: the id handed out and the counter afterwards. -/
def ActorId.next (counter : UInt64) : ActorId × UInt64 := (⟨counter⟩, counter + 1)

def SessionId.next (counter : UInt64) : SessionId × UInt64 := (⟨counter⟩, counter + 1)

/-! ## World position -/

structure Position where
  x : Rat
  y : Rat
  deriving DecidableEq, Repr

namespace Position

def toGridCell (self : Position) (cellSize : Rat) : GridCell :=
  ⟨saturateI32 (self.x / cellSize).floor, saturateI32 (self.y / cellSize).floor⟩

/-- `position.x.clamp(0.0, 9_999.0)` on both coordinates. -/
def clampToWorld (self : Position) : Position :=
  ⟨max 0 (min 9999 self.x), max 0 (min 9999 self.y)⟩

def InWorld (self : Position) : Prop :=
  (0 ≤ self.x ∧ self.x ≤ 9999) ∧ 0 ≤ self.y ∧ self.y ≤ 9999

instance (p : Position) : Decidable p.InWorld := by unfold InWorld; infer_instance

end Position

namespace GridCell

def chebyshev (a b : GridCell) : Int := max |a.x - b.x| |a.y - b.y|

end GridCell

/-! ## Models, roles and factions -/

inductive LlmModel
  | Gpt4o
  | ClaudeSonnet
  | ClaudeOpus
  | Ollama (name : String)
  | Mock
  deriving DecidableEq, Repr

def LlmModel.toString : LlmModel → String
  | .Gpt4o => "gpt-4o"
  | .ClaudeSonnet => "claude-sonnet-4-6"
  | .ClaudeOpus => "claude-opus-4-7"
  | .Ollama m => "ollama/" ++ m
  | .Mock => "mock"

inductive ActorRole
  | Wanderer
  | Merchant
  | Scholar
  | Knight
  | Mage
  | Bard
  | Guard
  deriving DecidableEq, Repr

def ActorRole.default : ActorRole := .Wanderer

inductive Faction
  | Empire
  | Alliance
  | WanderersGuild
  | MagesCircle
  | Neutral
  deriving DecidableEq, Repr

def Faction.default : Faction := .Neutral

def Faction.isHostileTo : Faction → Faction → Bool
  | .Empire, .Alliance => true
  | .Alliance, .Empire => true
  | _, _ => false

def Faction.debug : Faction → String
  | .Empire => "Empire"
  | .Alliance => "Alliance"
  | .WanderersGuild => "WanderersGuild"
  | .MagesCircle => "MagesCircle"
  | .Neutral => "Neutral"

/-! ## Actor state -/

structure ActorSpec where
  id : ActorId
  name : String
  personality : String
  backstory : String
  model : LlmModel
  position : Position
  role : ActorRole
  faction : Faction
  deriving DecidableEq, Repr

structure ActorState where
  id : ActorId
  name : String
  position : Position
  cell : GridCell
  tick : UInt64
  lastUtterance : Option String
  role : ActorRole
  faction : Faction
  hp : UInt8
  maxHp : UInt8
  xp : UInt32
  level : UInt8
  deriving DecidableEq, Repr

inductive ActorMessage
  | Move (dest : Position)
  | Speak (text : String)
  | Interact (target : ActorId) (action : String)
  | TakeDamage (amount : UInt8) (fromName : String)
  | GainXp (amount : UInt32)
  | Shutdown
  deriving DecidableEq, Repr

/-! ## Frames -/

structure StateDelta where
  tick : UInt64
  timestampMs : UInt64
  updates : List ActorState
  removed : List ActorId
  deriving DecidableEq, Repr

inductive SessionFrame
  | Delta (delta : StateDelta)
  | WorldEvent (message : String)
  deriving DecidableEq, Repr

/-! ## Configuration -/

/-- The fields of the configuration that the engines read. -/
structure WorldConfig where
  gridWidth : Int
  cellSize : Rat
  interestRadius : Int
  deriving DecidableEq, Repr

def WorldConfig.default : WorldConfig where
  gridWidth := 1000
  cellSize := 10
  interestRadius := 5

/-! ## Commands and directives -/

inductive ClientCommand
  | CreateActor (name personality backstory : String) (model : LlmModel) (position : Position)
      (role : Option ActorRole) (faction : Option Faction)
  | MoveActor (actorId : ActorId) (dest : Position)
  | ChatActor (actorId : ActorId) (text : String)
  | DestroyActor (actorId : ActorId)
  deriving DecidableEq, Repr

inductive ServerMessage
  | ActorCreated (actorId : ActorId)
  | WorldDelta (delta : StateDelta)
  | WorldEvent (message : String)
  | Error (code : UInt32) (message : String)
  deriving DecidableEq, Repr

inductive WorldDirective
  | ForceMove (actorId : ActorId) (dest : Position)
  | NarrativeEvent (message : String)
  | EconomyAdjust (resource : String) (delta : Int)
  | FlagActor (actorId : ActorId) (reason : String)
  deriving DecidableEq, Repr

end LiveWorld

import LiveWorld.AgentDecision
import LiveWorld.LlmAdapter
import LiveWorld.RedisSync

/-!
# Global agents

Director, economy and anti-cheat each run in a loop of their own that reads the shared snapshot, decides on directives
and puts them one by one into a bounded channel. A loop is cut where it waits: for its interval, for the LLM, and for
room in the channel. `directivesCapacity` is the size of the channel that `main` makes.
-/

namespace LiveWorld
open HashTable

def directivesCapacity : Nat := 1024

/-! ## Director -/

inductive DirectorPhase
  /-- until the next tick of the interval -/
  | waiting
  | asking (req : LlmRequest)
  | sending (directive : WorldDirective)
  deriving DecidableEq, Repr

structure DirectorAgent where
  phase : DirectorPhase
  decisionCount : UInt64
  deriving DecidableEq, Repr

namespace DirectorAgent

def new : DirectorAgent := ⟨.waiting, 0⟩

def request (actorCount : Nat) : LlmRequest where
  model := .Mock
  systemPrompt := "You are the world director. Generate a brief narrative event that makes the world more " ++
    "interesting. Output: EVENT <description>"
  userPrompt := "There are " ++ toString actorCount ++ " active characters in the world. Create a world event."
  maxTokens := 80

def wake (self : DirectorAgent) (snapshot : SharedSnapshot) : DirectorAgent :=
  { self with phase := .asking (request (HashMap.size snapshot.table)) }

def hear (self : DirectorAgent) : Except LlmError LlmResponse → DirectorAgent
  | .ok r =>
      { decisionCount := self.decisionCount + 1
        phase := match stripPrefix "EVENT " r.text with
          | some event => .sending (.NarrativeEvent (trim event))
          | none => .waiting }
  | .error _ => { self with phase := .waiting }

def pending (self : DirectorAgent) : List WorldDirective :=
  match self.phase with
  | .sending directive => [directive]
  | _ => []

def sent (self : DirectorAgent) : DirectorAgent := { self with phase := .waiting }

end DirectorAgent

/-! ## Economy -/

structure EconomyAgent where
  pending : List WorldDirective
  decisionCount : UInt64
  deriving DecidableEq, Repr

namespace EconomyAgent

def new : EconomyAgent := ⟨[], 0⟩

def adjustment (actorCount : Nat) : WorldDirective := .EconomyAdjust "gold" (if actorCount > 1000 then 100 else 10)

def wake (self : EconomyAgent) (snapshot : SharedSnapshot) : EconomyAgent :=
  ⟨[adjustment (HashMap.size snapshot.table)], self.decisionCount + 1⟩

def sent (self : EconomyAgent) : EconomyAgent := { self with pending := self.pending.tail }

end EconomyAgent

/-! ## Anti-cheat -/

structure AntiCheatAgent where
  maxSpeedPerTick : Rat
  lastPositions : HashMap ActorId Position
  pending : List WorldDirective
  decisionCount : UInt64

namespace AntiCheatAgent

def new (maxSpeedPerTick : Rat) : AntiCheatAgent := ⟨maxSpeedPerTick, ∅, [], 0⟩

/-- `{dist:.1}` of a distance, which is not negative. -/
def formatTenths (dist : Float32.Model) : String :=
  match Binary32.value dist with
  | .finite d => toString (roundHalfEven (10 * d) / 10) ++ "." ++ toString (roundHalfEven (10 * d) % 10)
  | .infinite _ => "inf"
  | .nan => "NaN"

def reason (dist : Float32.Model) : String := "Speed violation: moved " ++ formatTenths dist ++ " units in one interval"

def checkActor (maxSpeed : Rat) (found : List WorldDirective × HashMap ActorId Position) (state : ActorState) :
    List WorldDirective × HashMap ActorId Position :=
  let (violations, last) := found
  let violations :=
    match last.lookup state.id with
    | some prevPos =>
        let dist := distance prevPos state.position
        if dist > Binary32.nearest maxSpeed then violations ++ [.FlagActor state.id (reason dist)] else violations
    | none => violations
  (violations, last.insert state.id state.position)

def wake (self : AntiCheatAgent) (ord : Order) (snapshot : SharedSnapshot) : AntiCheatAgent :=
  let (violations, last) := (snapshot.values ord).foldl (checkActor self.maxSpeedPerTick) ([], self.lastPositions)
  { self with lastPositions := last, pending := violations, decisionCount := self.decisionCount + 1 }

def sent (self : AntiCheatAgent) : AntiCheatAgent := { self with pending := self.pending.tail }

end AntiCheatAgent

end LiveWorld

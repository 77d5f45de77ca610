import LiveWorld.Auth
import LiveWorld.CircuitBreaker
import LiveWorld.Lib.Binary32
import LiveWorld.Persistence
import LiveWorld.SemanticCache

/-!
# The decisions of an agent

Each agent has a loop that asks its LLM what to do. The body of the loop is cut where it waits, where it takes the
lock of the breaker or of the cache, and where it reports.
-/

namespace LiveWorld
open HashTable

/-! ## Numbers in a response -/

def isDigits (text : List Char) : Bool := !text.isEmpty && text.all Char.isDigit

def digitsValue (digits : List Char) : Nat := digits.foldl (fun n c => 10 * n + (c.toNat - '0'.toNat)) 0

/-- The sign of a number and what comes after it. -/
def splitSign : List Char → Bool × List Char
  | '-' :: rest => (true, rest)
  | '+' :: rest => (false, rest)
  | rest => (false, rest)

def parseExponent : List Char → Option Int
  | [] => some 0
  | c :: rest =>
      let (negative, digits) := splitSign rest
      if (c = 'e' ∨ c = 'E') ∧ isDigits digits then
        some (if negative then -(digitsValue digits : Int) else digitsValue digits)
      else none

def parseNumber (text : List Char) : Option Rat :=
  let whole := text.takeWhile Char.isDigit
  let rest := text.dropWhile Char.isDigit
  let (fraction, rest) :=
    match rest with
    | '.' :: rest => (rest.takeWhile Char.isDigit, rest.dropWhile Char.isDigit)
    | rest => ([], rest)
  if whole.isEmpty && fraction.isEmpty then none
  else
    (parseExponent rest).map fun exponent =>
      (digitsValue (whole ++ fraction) : Rat) * (10 : Rat) ^ (exponent - (fraction.length : Int))

/-- `str::parse::<f32>` -/
def parseF32 (text : String) : Option Binary32 :=
  let (negative, rest) := splitSign text.toList
  let word := String.ofList (rest.map Char.toLower)
  if word = "inf" ∨ word = "infinity" then some (.infinite negative)
  else if word = "nan" then some .nan
  else (parseNumber rest).map fun value => .round (if negative then -value else value)

/-! ## Actions -/

inductive AgentAction
  | Move (x y : Binary32)
  | Speak (text : String)
  | Attack (targetName : String)
  | Idle
  deriving DecidableEq, Repr

def stripPrefix (front text : String) : Option String :=
  if front.toList.isPrefixOf text.toList then some (String.ofList (text.toList.drop front.toList.length)) else none

/-- The two coordinates of a `MOVE`. -/
def parseCoordinates (rest : String) : Option (Binary32 × Binary32) :=
  match splitn 2 ',' rest.toList with
  | [x, y] =>
      match parseF32 (trim (String.ofList x)), parseF32 (trim (String.ofList y)) with
      | some x, some y => some (x, y)
      | _, _ => none
  | _ => none

def parseAction (text : String) : AgentAction :=
  let trimmed := trim text
  match (stripPrefix "MOVE " trimmed).bind parseCoordinates with
  | some (x, y) => .Move x y
  | none =>
      match stripPrefix "SPEAK " trimmed with
      | some rest => .Speak rest
      | none =>
          match stripPrefix "ATTACK " trimmed with
          | some rest => .Attack (trim rest)
          | none => .Idle

/-! ## Prompts -/

def roleHint : ActorRole → String
  | .Merchant => "seek others to trade with, share market news"
  | .Scholar => "observe and share wisdom or historical lore"
  | .Knight => "patrol, protect allies, challenge enemies when you meet them"
  | .Mage => "move mysteriously, speak of arcane matters"
  | .Bard => "entertain everyone nearby, tell stories and sing"
  | .Guard => "stay near your post, watch for enemies"
  | .Wanderer => "roam freely and explore the world"

def factionHint : Faction → String
  | .Empire => "You serve the Empire. Alliance members are your enemies."
  | .Alliance => "You fight for the Alliance. Empire soldiers are your enemies."
  | .WanderersGuild => "You owe loyalty to no one. Trade with all, trust few."
  | .MagesCircle => "Knowledge is power. Avoid combat; study and advise."
  | .Neutral => "You are independent and neutral."

def systemPrompt (spec : ActorSpec) : String :=
  "You are " ++ spec.name ++ ", a character in a fantasy world at war. Role: " ++ roleHint spec.role ++ ". " ++
    factionHint spec.faction ++ " Personality: " ++ spec.personality ++ ". Backstory: " ++ spec.backstory ++
    ". Respond with ONE action on a single line: 'MOVE x,y' (coordinates 0-10000) | 'SPEAK text (max 60 chars)' | " ++
    "'ATTACK name' (only use against hostile faction members)."

def roundHalfEven (q : Rat) : Int :=
  let below := q.floor
  if q - below < 1 / 2 ∨ (q - below = 1 / 2 ∧ below % 2 = 0) then below else below + 1

/-- `{:.0}` -/
def formatRounded (q : Rat) : String := (if q < 0 then "-" else "") ++ toString (roundHalfEven |q|)

def formatPosition (pos : Position) : String := "(" ++ formatRounded pos.x ++ "," ++ formatRounded pos.y ++ ")"

def formatHp (s : ActorState) : String := "HP:" ++ toString s.hp.toNat ++ "/" ++ toString s.maxHp.toNat

def nearbyDesc (state s : ActorState) : String :=
  let rel := if state.faction.isHostileTo s.faction then "ENEMY" else "ally"
  s.name ++ " [" ++ rel ++ " " ++ formatHp s ++ "] at " ++ formatPosition s.position ++
    ((s.lastUtterance.map fun u => " saying '" ++ u ++ "'").getD "")

def userPrompt (state : ActorState) (nearby : List ActorState) : String :=
  let nearbyDesc := (nearby.take 5).map (nearbyDesc state)
  "You are at " ++ formatPosition state.position ++ " " ++ formatHp state ++ " XP:" ++ toString state.xp.toNat ++
    " Lv:" ++ toString state.level.toNat ++ ". Nearby: " ++
    (if nearbyDesc.isEmpty then "nobody" else String.intercalate ", " nearbyDesc) ++ ". What do you do?"

/-! ## The loop -/

/-- How far it is from `a` to `b`, where every operation is rounded. -/
def distance (a b : Position) : Float32.Model :=
  let dx := Binary32.nearest b.x - Binary32.nearest a.x
  let dy := Binary32.nearest b.y - Binary32.nearest a.y
  (dx * dx + dy * dy).sqrt

abbrev Snapshot := HashMap ActorId ActorState

inductive LoopPhase
  /-- until the next tick of the interval -/
  | waiting
  | asking (req : LlmRequest)
  | admitted (req : LlmRequest)
  | answered (resp : Except LlmError LlmResponse)
  | stopped

structure AgentDecisionLoop where
  spec : ActorSpec
  handle : ActorHandle
  phase : LoopPhase
  consecutiveMisses : UInt32

namespace AgentDecisionLoop

def maxMisses : UInt32 := 10

/-- `DecisionConfig::default().max_tokens` -/
def maxTokens : UInt32 := 64

def new (spec : ActorSpec) (handle : ActorHandle) : AgentDecisionLoop := ⟨spec, handle, .waiting, 0⟩

def isNearby (me s : ActorState) : Bool := decide (distance me.position s.position < Binary32.nearest 500)

def nearby (ord : Order) (snapshot : Snapshot) (me : ActorState) (myId : ActorId) : List ActorState :=
  (((HashMap.values ord snapshot).filter fun s => decide (s.id ≠ myId)).filter (isNearby me)).take 5

def request (self : AgentDecisionLoop) (ord : Order) (snapshot : Snapshot) (state : ActorState) : LlmRequest where
  model := self.spec.model
  systemPrompt := systemPrompt self.spec
  userPrompt := userPrompt state (nearby ord snapshot state self.spec.id)
  maxTokens := maxTokens

def look (self : AgentDecisionLoop) (ord : Order) (snapshot : Snapshot) : AgentDecisionLoop :=
  match snapshot.lookup self.spec.id with
  | some state => { self with consecutiveMisses := 0, phase := .asking (self.request ord snapshot state) }
  | none =>
      let consecutiveMisses := self.consecutiveMisses + 1
      { self with
        consecutiveMisses
        phase := if consecutiveMisses ≥ maxMisses then .stopped else .waiting }

def askBreaker (self : AgentDecisionLoop) (req : LlmRequest) (rejected : Bool) : AgentDecisionLoop :=
  { self with phase := if rejected then .waiting else .admitted req }

/-- The message that the response makes the loop send; `none` for coordinates that are no rational numbers. -/
def message (myId : ActorId) (ord : Order) (snapshot : Snapshot) : AgentAction → Option ActorMessage
  | .Move (.finite x) (.finite y) => some (.Move ⟨x, y⟩)
  | .Move _ _ => none
  | .Speak text => some (.Speak text)
  | .Attack targetName =>
      ((HashMap.values ord snapshot).find? fun s =>
        decide (s.name.toList.map Char.toLower = targetName.toList.map Char.toLower) && decide (s.id ≠ myId)).map
        fun s => .Interact s.id "ATTACK"
  | .Idle => none

end AgentDecisionLoop

end LiveWorld

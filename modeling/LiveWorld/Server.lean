import LiveWorld.Persistence

/-!
# The server: its boot and its command processor

`Server` is the engine together with the state of the command processor, the process-wide counter of
actor ids and the running decision loops. `boot` is the start of `main`, up to the first command.
-/

namespace LiveWorld
open HashTable

inductive EngineCommand
  | CreateActor (session : SessionId) (name personality backstory : String) (model : LlmModel) (position : Position)
      (role : Option ActorRole) (faction : Option Faction)
  | MoveActor (session : SessionId) (dest : Position)
  | ChatActor (session : SessionId) (text : String)
  | DestroyActor (session : SessionId) (actorId : ActorId)
  | SessionDisconnect (session : SessionId)
  deriving DecidableEq, Repr

/-- What a decision loop was started with; `none` is a cache of its own. -/
structure DecisionLoop where
  spec : ActorSpec
  handle : ActorHandle
  cacheKey : Option String
  deriving DecidableEq, Repr

structure Server where
  engine : WorldEngine
  nextActorId : UInt64
  sessionHandles : HashMap SessionId ActorHandle
  decisionHandles : HashMap SessionId DecisionLoop
  /-- the model that the adapter of a cache was created for -/
  llmCaches : HashMap String LlmModel
  running : List DecisionLoop

namespace Server

def new (cfg : WorldConfig) : Server where
  engine := WorldEngine.new cfg
  nextActorId := 1
  sessionHandles := ∅
  decisionHandles := ∅
  llmCaches := ∅
  running := []

/-! ## Commands -/

def createActor (self : Server) (ord : Order) (session : SessionId) (name personality backstory : String)
    (model : LlmModel) (position : Position) (role : Option ActorRole) (faction : Option Faction) :
    Except String ActorId × Server :=
  if name.utf8ByteSize > 64 then (.error "Name too long (max 64 chars)", self)
  else if personality.utf8ByteSize > 256 then (.error "Personality too long (max 256 chars)", self)
  else if backstory.utf8ByteSize > 512 then (.error "Backstory too long (max 512 chars)", self)
  else
    let (id, nextActorId) := ActorId.next self.nextActorId
    let modelKey := model.toString
    let spec : ActorSpec :=
      { id
        name
        personality
        backstory
        model
        position := position.clampToWorld
        role := role.getD .default
        faction := faction.getD .default }
    let (handle, engine) := self.engine.spawnActorForSession ord spec session
    let llmCaches := if modelKey ∈ self.llmCaches then self.llmCaches else self.llmCaches.insert modelKey model
    let dl : DecisionLoop := ⟨spec, handle, some modelKey⟩
    (.ok id,
      { engine
        nextActorId
        sessionHandles := self.sessionHandles.insert session handle
        -- a loop whose join handle is overwritten goes on
        decisionHandles := self.decisionHandles.insert session dl
        llmCaches
        running := self.running ++ [dl] })

def sendTo (self : Server) (session : SessionId) (msg : ActorMessage) : Server :=
  match self.sessionHandles.lookup session with
  | some handle => { self with engine := (self.engine.send handle msg).2 }
  | none => self

/-- The common part of `DestroyActor` and `SessionDisconnect`. -/
def endSession (self : Server) (session : SessionId) : Server :=
  { self with
    sessionHandles := self.sessionHandles.erase session
    running := match self.decisionHandles.lookup session with
      | some dl => self.running.erase dl
      | none => self.running
    decisionHandles := self.decisionHandles.erase session
    engine := self.engine.removeSession session true }

def process (self : Server) (ord : Order) : EngineCommand → Option (Except String ActorId) × Server
  | .CreateActor session name personality backstory model position role faction =>
      let (reply, self) := self.createActor ord session name personality backstory model position role faction
      (some reply, self)
  | .MoveActor session dest => (none, self.sendTo session (.Move dest.clampToWorld))
  | .ChatActor session text => (none, if text.utf8ByteSize > 500 then self else self.sendTo session (.Speak text))
  | .DestroyActor session _ => (none, self.endSession session)
  | .SessionDisconnect session => (none, self.endSession session)

/-! ## Boot -/

def npc (name personality backstory : String) (x y : Rat) (role : ActorRole) (faction : Faction) (id : ActorId) :
    ActorSpec where
  id := id
  name := name
  personality := personality
  backstory := backstory
  model := .Mock
  position := ⟨x, y⟩
  role := role
  faction := faction

def residents : List (ActorId → ActorSpec) :=
  [
    npc "Evara the Knight" "fierce, honourable, speaks in terse sentences"
      "Champion of the Empire, guardian of the northern border" 2000 1500 .Knight .Empire,
    npc "Iron Gregor" "gruff, disciplined, loyal to the Emperor"
      "Veteran soldier who has fought a hundred battles for the Empire" 3000 2000 .Guard .Empire,
    npc "Lady Seraphine" "imperious, calculating, ruthless in debate"
      "Imperial envoy sent to expand the Empire's influence" 1500 2500 .Scholar .Empire,
    npc "Magnus the Bard" "eloquent, theatrical, sings of Imperial glory"
      "Court bard spreading propaganda and morale among Empire troops" 8200 6500 .Bard .Empire,
    npc "Fortress Keeper Holt" "stoic, watchful, never leaves his post"
      "Commands the mountain stronghold at the eastern pass" 8800 7500 .Guard .Empire,
    npc "Captain Selene" "brave, idealistic, fights for freedom"
      "Leader of the Alliance coastal patrol, enemy of tyranny" 1500 7500 .Knight .Alliance,
    npc "Riven the Scout" "quick-witted, observant, speaks in short bursts"
      "Ranger of the southern plains, knows every trail" 4500 7800 .Wanderer .Alliance,
    npc "Elder Mira" "compassionate, wise, speaks of peace"
      "Healer and spiritual guide of the Alliance settlements" 2500 8000 .Scholar .Alliance,
    npc "Blacksmith Orin" "practical, hardworking, proud of the Alliance cause"
      "Forges weapons for Alliance fighters, values fairness" 5500 8200 .Merchant .Alliance,
    npc "Serra the Ranger" "fierce, loyal, protective of common folk"
      "Protects Alliance villages from Imperial raids" 1000 6500 .Guard .Alliance,
    npc "Dusty the Wanderer" "free-spirited, curious, trades secrets for gold"
      "Has crossed every desert and knows where the hidden oases are" 8000 2000 .Wanderer .WanderersGuild,
    npc "Elena the Merchant" "shrewd but fair, always seeking a good deal"
      "Runs the most profitable stall in the Central Market" 5100 5200 .Merchant .WanderersGuild,
    npc "Silk Road Hassan" "charming, cryptic, knows everyone's price"
      "Information broker who sells secrets to the highest bidder" 7500 3000 .Merchant .WanderersGuild,
    npc "Nomad Zaya" "resilient, earthy, speaks of the desert's wisdom"
      "Desert nomad who guides caravans through the Eastern wastes" 9000 1500 .Wanderer .WanderersGuild,
    npc "Tinker Bex" "inventive, excitable, always building something"
      "Wandering artificer who sells gadgets and oddities" 4900 4800 .Merchant .WanderersGuild,
    npc "Archmage Voss" "enigmatic, brilliant, speaks in riddles and metaphors"
      "Head of the Mages Circle, keeper of forbidden knowledge" 5000 4500 .Mage .MagesCircle,
    npc "Lyra Stormcaller" "passionate, volatile, her moods shift like weather"
      "Specialises in elemental magic; seeks rare components" 4600 5000 .Mage .MagesCircle,
    npc "Old Gregor" "verbose, pedantic, loves nothing more than a long lecture"
      "Keeper of the Grand Library, archivist of all world lore" 4800 4700 .Scholar .MagesCircle,
    npc "Prentice Kael" "eager, clumsy, desperately wants to impress"
      "Young apprentice mage, prone to accidental mishaps" 5300 5100 .Mage .MagesCircle,
    npc "Seer Callista" "serene, cryptic, speaks of visions from the future"
      "Oracle of the Circle who observes rather than acts" 5800 4200 .Mage .MagesCircle ]

def number : UInt64 → List (ActorId → ActorSpec) → List ActorSpec × UInt64
  | counter, [] => ([], counter)
  | counter, spec :: rest =>
      let (id, counter) := ActorId.next counter
      let (specs, counter) := number counter rest
      (spec id :: specs, counter)

def defaultNpcs (counter : UInt64) : List ActorSpec × UInt64 := number counter residents

def spawnResident (self : Server) (spec : ActorSpec) : Server :=
  let (handle, engine) := self.engine.spawnActorStandalone spec
  { self with engine, running := self.running ++ [⟨spec, handle, none⟩] }

def boot (cfg : WorldConfig) (stored : Except SnapshotError (Option WorldSnapshot)) : Server :=
  let self := Server.new cfg
  match stored with
  | .ok (some snapshot) => (restoreActors snapshot).foldl spawnResident self
  | .ok none =>
      let (npcs, nextActorId) := defaultNpcs self.nextActorId
      npcs.foldl spawnResident { self with nextActorId }
  | .error _ => self

end Server

end LiveWorld

import LiveWorld.GlobalAgents
import LiveWorld.Spec.EngineRun

/-!
# The global agents at work

The three agents, their channel and the directive processor run beside everybody else who calls the engine and writes
the shared snapshot. A record is kept of what every agent has decided, what has entered the channel and what has been
applied.
-/

namespace LiveWorld.Spec
open HashTable

inductive AgentName
  | director
  | economy
  | antiCheat
  deriving DecidableEq, Repr

structure Agency where
  engine : WorldEngine
  snapshot : SharedSnapshot
  cache : SemanticCache
  director : DirectorAgent
  economy : EconomyAgent
  antiCheat : AntiCheatAgent
  channel : List WorldDirective
  decided : AgentName → List WorldDirective
  entered : List (AgentName × WorldDirective)
  applied : List WorldDirective

inductive AgencyStep : Type 1
  | call (call : EngineCall)
  /-- by the tick loop or by the subscriber -/
  | share (snapshot : SharedSnapshot)
  | wakeDirector
  | answerDirector (backend : Backend)
  | wakeEconomy
  | wakeAntiCheat (ord : Order)
  | send (agent : AgentName)
  | process

namespace Agency

def start (engine : WorldEngine) (maxSpeed : Rat) : Agency where
  engine := engine
  snapshot := .empty
  cache := .new 256
  director := .new
  economy := .new
  antiCheat := .new maxSpeed
  channel := []
  decided _ := []
  entered := []
  applied := []

def pending (s : Agency) : AgentName → List WorldDirective
  | .director => s.director.pending
  | .economy => s.economy.pending
  | .antiCheat => s.antiCheat.pending

def conclude (s : Agency) (agent : AgentName) (directives : List WorldDirective) : Agency :=
  { s with decided := Function.update s.decided agent (s.decided agent ++ directives) }

/-- The first of the directives that `agent` has to send is taken. -/
def sent (s : Agency) : AgentName → Agency
  | .director => { s with director := s.director.sent }
  | .economy => { s with economy := s.economy.sent }
  | .antiCheat => { s with antiCheat := s.antiCheat.sent }

def next (ahash : Hasher) (s : Agency) : AgencyStep → Option Agency
  | .call call => some { s with engine := call.apply s.engine }
  | .share snapshot => some { s with snapshot }
  | .wakeDirector =>
      match s.director.phase with
      | .waiting => some { s with director := s.director.wake s.snapshot }
      | _ => none
  | .answerDirector backend =>
      match s.director.phase with
      | .asking req =>
          let completion := s.cache.complete ahash backend req
          let director := s.director.hear completion.result
          some ({ s with cache := completion.cache, director }.conclude .director director.pending)
      | _ => none
  | .wakeEconomy =>
      match s.economy.pending with
      | [] =>
          let economy := s.economy.wake s.snapshot
          some ({ s with economy }.conclude .economy economy.pending)
      | _ => none
  | .wakeAntiCheat ord =>
      match s.antiCheat.pending with
      | [] =>
          let antiCheat := s.antiCheat.wake ord s.snapshot
          some ({ s with antiCheat }.conclude .antiCheat antiCheat.pending)
      | _ => none
  | .send agent =>
      match s.pending agent with
      | directive :: _ =>
          -- `send` waits until there is room
          if s.channel.length < directivesCapacity then
            some { s.sent agent with
              channel := s.channel ++ [directive]
              entered := s.entered ++ [(agent, directive)] }
          else none
      | [] => none
  | .process =>
      match s.channel with
      | directive :: rest =>
          some { s with
            channel := rest
            engine := s.engine.applyDirective directive
            applied := s.applied ++ [directive] }
      | [] => none

abbrev Reachable (ahash : Hasher) (engine : WorldEngine) (maxSpeed : Rat) : Agency → Prop :=
  Transition.Reachable (· = start engine maxSpeed) (fun _ _ => True) (next ahash)

/-! ## Nothing is lost -/

def enteredBy (agent : AgentName) (entered : List (AgentName × WorldDirective)) : List WorldDirective :=
  (entered.filter fun entry => decide (entry.1 = agent)).map Prod.snd

/-- Directives are applied in the order they entered the channel, and enter it in the order they were decided on. -/
structure Orderly (s : Agency) : Prop where
  bounded : s.channel.length ≤ directivesCapacity
  applied : s.entered.map Prod.snd = s.applied ++ s.channel
  entered : ∀ agent, s.decided agent = enteredBy agent s.entered ++ s.pending agent
  adjusted : s.economy.decisionCount = UInt64.ofNat (s.decided .economy).length

end Agency

/-! ## The world without agents -/

def callsOf (steps : List AgencyStep) : List EngineCall :=
  steps.filterMap fun step => match step with
    | .call call => some call
    | _ => none

/-- Everything but what waits in the queues of the sessions. -/
def muted (engine : WorldEngine) : WorldEngine := { engine with sessionQueues := ∅ }

/-- The engines differ at most in the frames that their sessions have been sent. -/
structure SameButFrames (one other : WorldEngine) : Prop where
  world : muted one = muted other
  sessions : ∀ session, session ∈ one.sessionQueues ↔ session ∈ other.sessionQueues

/-- The director is answered by a mock, whatever response it has been given. -/
def Mocked : AgencyStep → Prop
  | .answerDirector backend => ∃ response, backend = (MockLlm.new.withResponse response).complete
  | _ => True

/-! ## What the anti-cheat agent knows -/

abbrev Sweep := Order × SharedSnapshot

def swept (maxSpeed : Rat) (sweeps : List Sweep) : AntiCheatAgent :=
  sweeps.foldl (fun agent sweep => agent.wake sweep.1 sweep.2) (.new maxSpeed)

/-- Where the actor was in the last of the snapshots that had it. -/
def lastSeen (id : ActorId) (sweeps : List Sweep) : Option Position :=
  sweeps.foldl (fun last sweep => ((sweep.2.lookup id).map ActorState.position).or last) none

/-- After a sweep exactly those are flagged, once each, who have moved too far since they were last seen. -/
structure FlagsFast (maxSpeed : Rat) (earlier : List Sweep) (sweep : Sweep) (agent : AntiCheatAgent) : Prop where
  flagged : ∀ directive, directive ∈ agent.pending ↔ ∃ id state before, sweep.2.lookup id = some state ∧
    lastSeen id earlier = some before ∧ Binary32.nearest maxSpeed < distance before state.position ∧
    directive = .FlagActor id (AntiCheatAgent.reason (distance before state.position))
  once : agent.pending.Nodup
  /-- to the nearest tenth -/
  shown : ∀ dist d, Binary32.value dist = .finite d → ∃ tenths : Int, |tenths / 10 - d| ≤ 1 / 20 ∧
    AntiCheatAgent.formatTenths dist = toString (tenths / 10) ++ "." ++ toString (tenths % 10)
  /-- nobody is ever forgotten -/
  remembered : ∀ id, agent.lastPositions.lookup id = lastSeen id (earlier ++ [sweep])

end LiveWorld.Spec

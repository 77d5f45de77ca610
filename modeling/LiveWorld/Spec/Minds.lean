import LiveWorld.LlmAdapter
import LiveWorld.Metrics
import LiveWorld.Spec.Obedience
import LiveWorld.Spec.Verdicts

/-!
# Actors with minds

The decision loops work beside everybody else who calls the engine. What a loop hears it has its actor do, through the
handle it was started with. A loop may be aborted where it waits: for its interval, or for a response. A record is kept
of the thoughts of all loops, of what they heard in which snapshot, and of the orders that came from elsewhere.
-/

namespace LiveWorld.Spec
open HashTable
variable {ι β κ : Type} [DecidableEq ι] [DecidableEq β] [DecidableEq κ]

inductive Thought
  | looked (present : Bool)
  /-- past the breaker -/
  | called
  | failed
  | heard (text : String)
  /-- while a call was in flight, or not -/
  | aborted (calling : Bool)
  deriving DecidableEq, Repr

def Thought.count : Thought → Counters → Counters
  | .called => incLlmCalls
  | .failed => incLlmErrors
  | _ => id

def AgentStep.agent : AgentStep ι → ι
  | .look agent _ _ | .ask agent _ | .complete agent _ | .report agent _ => agent

/-- A text that a loop heard, and the snapshot in which it then looks for whom to attack. -/
structure Hearing (ι : Type) where
  agent : ι
  text : String
  ord : Order
  snapshot : Snapshot

structure Society (ι β κ : Type) where
  agents : Agents ι β κ
  docket : Docket
  counters : Counters
  thoughts : List (ι × Thought)
  hearings : List (Hearing ι)
  commanded : List (ActorId × ActorMessage)

inductive SocietyStep (ι : Type) : Type 1
  | call (call : EngineCall)
  /-- with the snapshot of that moment -/
  | think (step : AgentStep ι) (ord : Order) (snapshot : Snapshot)
  | abort (agent : ι)

namespace Society

def start (setup : AgentSetup ι β κ) (cfg : WorldConfig) : Society ι β κ :=
  ⟨Agents.start setup, Docket.start cfg, ⟨0, 0, 0⟩, [], [], []⟩

def thought (wiring : Wiring ι β κ) (s : Agents ι β κ) : AgentStep ι → Option Thought
  | .look agent _ snapshot => some (.looked (decide ((s.loops agent).spec.id ∈ snapshot)))
  | .ask agent now => if ((s.breakers (wiring.breaker agent)).isOpen now).1 then none else some .called
  | .complete _ _ => none
  | .report agent _ =>
      match (s.loops agent).phase with
      | .answered (.ok r) => some (.heard r.text)
      | .answered (.error _) => some .failed
      | _ => none

/-- The message that a loop sends when it hears `text`. -/
def decision (loop : AgentDecisionLoop) (ord : Order) (snapshot : Snapshot) (text : String) : Option ActorMessage :=
  AgentDecisionLoop.message loop.spec.id ord snapshot (parseAction text)

def act (s : Society ι β κ) (agent : ι) (ord : Order) (snapshot : Snapshot) : Thought → Society ι β κ
  | .heard text =>
      { s with
        docket := (decision (s.agents.loops agent) ord snapshot text).elim s.docket fun msg =>
          s.docket.next (.send (s.agents.loops agent).handle msg)
        hearings := s.hearings ++ [⟨agent, text, ord, snapshot⟩] }
  | _ => s

def remember (s : Society ι β κ) (agent : ι) (thought : Thought) : Society ι β κ :=
  { s with
    counters := thought.count s.counters
    thoughts := s.thoughts ++ [(agent, thought)] }

def stop (s : Society ι β κ) (agent : ι) (calling : Bool) : Society ι β κ :=
  { s with agents := s.agents.setLoop agent { s.agents.loops agent with phase := .stopped } }.remember agent (.aborted calling)

def next (wiring : Wiring ι β κ) (ahash : Hasher) (s : Society ι β κ) : SocietyStep ι → Option (Society ι β κ)
  | .call call =>
      some { s with
        docket := s.docket.next call
        commanded := s.commanded ++ (Docket.accepted s.docket.chronicle.world.engine call).toList }
  | .think step ord snapshot =>
      (s.agents.next wiring ahash step).map fun agents =>
        match thought wiring s.agents step with
        | some thought => ({ s with agents }.remember step.agent thought).act step.agent ord snapshot thought
        | none => { s with agents }
  | .abort agent =>
      match (s.agents.loops agent).phase with
      | .waiting => some (s.stop agent false)
      | .admitted _ => some (s.stop agent true)
      | _ => none

abbrev Reachable (wiring : Wiring ι β κ) (ahash : Hasher) (setup : AgentSetup ι β κ) (cfg : WorldConfig)
    (allowed : Society ι β κ → SocietyStep ι → Prop) : Society ι β κ → Prop :=
  Transition.Reachable (· = start setup cfg) allowed (next wiring ahash)

/-! ## Causes -/

def isFinite : AgentAction → Bool
  | .Move (.finite _) (.finite _) => true
  | .Move _ _ => false
  | _ => true

/-- What a loop is about to hear names no infinite place. -/
def hearsFinite (s : Agents ι β κ) : AgentStep ι → Bool
  | .report agent _ =>
      match (s.loops agent).phase with
      | .answered (.ok r) => isFinite (parseAction r.text)
      | _ => true
  | _ => true

/-- Callers keep to what a docket is about, a loop runs once its actor has been spawned, and hears of finite places. -/
def Allowed (s : Society ι β κ) : SocietyStep ι → Prop
  | .call call => s.docket.Allowed call
  | .think step _ _ => (s.agents.loops step.agent).handle ∈ s.docket.handles ∧ hearsFinite s.agents step = true
  | .abort _ => True

instance (s : Society ι β κ) (step : SocietyStep ι) : Decidable (s.Allowed step) :=
  match step with
  | .call call => inferInstanceAs (Decidable (s.docket.Allowed call))
  | .think step _ _ =>
      inferInstanceAs (Decidable ((s.agents.loops step.agent).handle ∈ s.docket.handles ∧ hearsFinite s.agents step = true))
  | .abort _ => .isTrue trivial

/-- An order was accepted from elsewhere, or decided on by a loop of the actor for what it heard, in the snapshot of that
moment. -/
def Caused (s : Society ι β κ) (id : ActorId) (order : ActorMessage) : Prop :=
  (id, order) ∈ s.commanded ∨ ∃ hearing ∈ s.hearings, (s.agents.loops hearing.agent).handle.id = id ∧
    decision (s.agents.loops hearing.agent) hearing.ord hearing.snapshot hearing.text = some order

/-! ## Accounts -/

def thoughtsOf (agent : ι) (thoughts : List (ι × Thought)) : List Thought :=
  (thoughts.filter fun entry => decide (entry.1 = agent)).map Prod.snd

def isHeard : Thought → Bool
  | .heard _ => true
  | _ => false

def isAborted : Thought → Bool
  | .aborted _ => true
  | _ => false

def inFlight : LoopPhase → Nat
  | .admitted _ | .answered _ => 1
  | _ => 0

/-- For how many looks in a row the actor has been missing now. -/
def missing (thoughts : List Thought) : Nat :=
  thoughts.foldl (fun misses thought =>
    match thought with
    | .looked true => 0
    | .looked false => misses + 1
    | _ => misses) 0

/-- The counters are exact, every call comes to one end, and a loop ends with the tenth look in a row without its
actor or when it is aborted. -/
structure Accounted (s : Society ι β κ) : Prop where
  calls : s.counters.llmCallsTotal = UInt64.ofNat (s.thoughts.countP fun entry => decide (entry.2 = .called))
  errors : s.counters.llmErrorsTotal = UInt64.ofNat (s.thoughts.countP fun entry => decide (entry.2 = .failed))
  ends : ∀ agent, (thoughtsOf agent s.thoughts).count .called =
    (thoughtsOf agent s.thoughts).count .failed + (thoughtsOf agent s.thoughts).countP isHeard +
      (thoughtsOf agent s.thoughts).count (.aborted true) + inFlight (s.agents.loops agent).phase
  lifetime : ∀ agent, missing (thoughtsOf agent s.thoughts) ≤ 10 ∧ ((s.agents.loops agent).phase = .stopped ↔
    missing (thoughtsOf agent s.thoughts) = 10 ∨ (thoughtsOf agent s.thoughts).any isAborted = true)

/-! ## Stillness -/

/-- Nobody sends anything but the loops, and these are answered by mocks. -/
def Unattended : SocietyStep ι → Prop
  | .call call => call.sent = none
  | .think (.complete _ adapter) _ _ => ∃ response, adapter = (MockLlm.new.withResponse response).complete
  | .think _ _ _ | .abort _ => True

structure AsBorn (actor : Actor) : Prop where
  place : actor.state.position = actor.spec.position
  hp : actor.state.hp = actor.state.maxHp
  xp : actor.state.xp = 0
  level : actor.state.level = 1
  silent : actor.state.lastUtterance = none

end Society

end LiveWorld.Spec

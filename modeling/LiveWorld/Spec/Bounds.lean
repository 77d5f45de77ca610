import LiveWorld.AgentDecision
import LiveWorld.Lib.Transition
import LiveWorld.Server

/-!
# The bounds of the world

Places come into the world with commands of clients, with what an LLM answers to an agent, and with the actors that are
there at the start.
-/

namespace LiveWorld.Spec
open HashTable

inductive SystemStep : Type 1
  | command (ord : Order) (cmd : EngineCommand)
  | decision (loop : DecisionLoop) (ord : Order) (snapshot : Snapshot) (text : String)
  | directive (order : WorldDirective)
  | pump (session : SessionId)
  | tick (ord : Order) (clock : SessionId → UInt64)

def SystemStep.apply (s : Server) : SystemStep → Server
  | .command ord cmd => (s.process ord cmd).2
  | .decision loop ord snapshot text =>
      match AgentDecisionLoop.message loop.spec.id ord snapshot (parseAction text) with
      | some msg => { s with engine := (s.engine.send loop.handle msg).2 }
      | none => s
  | .directive order => { s with engine := s.engine.applyDirective order }
  | .pump session => { s with engine := (s.engine.drainSession session).2 }
  | .tick ord clock => { s with engine := s.engine.tick ord clock }

/-- A loop decides if it runs and finds its actor in the snapshot, and none of the global agents forces a move. -/
def Possible (s : Server) : SystemStep → Prop
  | .decision loop _ snapshot _ => loop ∈ s.running ∧ loop.spec.id ∈ snapshot
  | .directive order => ∀ id dest, order ≠ .ForceMove id dest
  | _ => True

def namesPlace : AgentAction → Bool
  | .Move (.finite x) (.finite y) => decide (Position.InWorld ⟨x, y⟩)
  | .Move _ _ => false
  | _ => true

/-- Where a response moves its agent to is in the world. -/
def Sensible : SystemStep → Prop
  | .decision _ _ _ text => namesPlace (parseAction text) = true
  | _ => True

/-- The server after a boot from in-world specs. -/
def Booted (cfg : WorldConfig) (s : Server) : Prop :=
  ∃ stored, s = Server.boot cfg stored ∧
    ∀ snapshot, stored = .ok (some snapshot) → ∀ spec ∈ restoreActors snapshot, spec.position.InWorld

abbrev SystemReachable (cfg : WorldConfig) (allowed : Server → SystemStep → Prop) : Server → Prop :=
  Transition.Reachable (Booted cfg) allowed fun s step => some (step.apply s)

def AllInside (s : Server) : Prop :=
  ∀ id actor, s.engine.runtime.actors.lookup id = some actor → actor.state.position.InWorld

end LiveWorld.Spec

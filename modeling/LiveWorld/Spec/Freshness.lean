import LiveWorld.Server
import LiveWorld.Spec.Bookkeeping

/-!
# New actors and the ones already there

A run of the server takes commands, decisions, directives and ticks in any order. Every actor it creates
should come under an id that no live actor has.
-/

namespace LiveWorld.Spec
open HashTable

/-- What a decision loop may send, with the target of an attack looked up. -/
inductive Decision
  | Move (dest : Position)
  | Speak (text : String)
  | Attack (target : ActorId)

def Decision.message : Decision → ActorMessage
  | .Move dest => .Move dest
  | .Speak text => .Speak text
  | .Attack target => .Interact target "ATTACK"

inductive ServerStep : Type 1
  | command (ord : Order) (cmd : EngineCommand)
  | agent (handle : ActorHandle) (decision : Decision)
  | directive (order : WorldDirective)
  | pump (session : SessionId)
  | tick (ord : Order) (clock : SessionId → UInt64)

def ServerStep.apply (s : Server) : ServerStep → Server
  | .command ord cmd => (s.process ord cmd).2
  | .agent handle decision => { s with engine := (s.engine.send handle decision.message).2 }
  | .directive order => { s with engine := s.engine.applyDirective order }
  | .pump session => { s with engine := (s.engine.drainSession session).2 }
  | .tick ord clock => { s with engine := s.engine.tick ord clock }

def ServerStep.creates : ServerStep → Bool
  | .command _ (.CreateActor _ name personality backstory _ _ _ _) =>
      decide (name.utf8ByteSize ≤ 64 ∧ personality.utf8ByteSize ≤ 256 ∧ backstory.utf8ByteSize ≤ 512)
  | _ => false

def creations (steps : List ServerStep) : Nat := steps.countP ServerStep.creates

/-- Spawning under `id` touches nobody: the id was free, everybody is kept, and the books are in order. -/
structure FreshSpawn (before after : WorldEngine) (id : ActorId) : Prop where
  fresh : id ∉ before.runtime.actors
  actors : ∀ other actor, before.runtime.actors.lookup other = some actor →
    after.runtime.actors.lookup other = some actor
  handles : ∀ other handle, before.runtime.handles.lookup other = some handle →
    after.runtime.handles.lookup other = some handle
  books : Bookkeeping after.runtime

def SpawnsFresh : Server → List ServerStep → Prop
  | _, [] => True
  | s, step :: rest =>
      (∀ ord cmd id, step = .command ord cmd → (s.process ord cmd).1 = some (.ok id) →
        FreshSpawn s.engine (step.apply s).engine id) ∧
      SpawnsFresh (step.apply s) rest

end LiveWorld.Spec

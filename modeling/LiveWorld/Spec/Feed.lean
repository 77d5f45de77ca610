import LiveWorld.Spec.EngineRun

/-!
# The feed of one session

`pushed` are the frames that went into the queue of a session since it was registered, and `received` those that its
pump has drained from it.
-/

namespace LiveWorld.Spec
open HashTable

/-- The frames that the last part of a tick has for a session, found out on an empty queue. -/
def tickFrames (engine : WorldEngine) (ord : Order) (clock : SessionId → UInt64) (session : SessionId) :
    List SessionFrame :=
  queueOf (((engine.applyEffects ord).drainSession session).2.pushDeltas ord clock) session

structure Feed where
  engine : WorldEngine
  ticks : Nat
  pushed : List SessionFrame
  received : List SessionFrame

namespace Feed
variable (session : SessionId)

def start (cfg : WorldConfig) : Feed := ⟨WorldEngine.new cfg, 0, [], []⟩

def registers : EngineCall → Bool
  | .spawnActorForSession _ _ opened => decide (opened = session)
  | _ => false

/-- Events are appended to the queue; a tick also has frames that may push older ones out. -/
def pushes (engine : WorldEngine) : EngineCall → List SessionFrame
  | .tick ord clock => newFrames engine (engine.applyEffects ord) session ++ tickFrames engine ord clock session
  | call => newFrames engine (call.apply engine) session

def drains (engine : WorldEngine) : EngineCall → List SessionFrame
  | .drainSession drained => if drained = session then (engine.drainSession session).1 else []
  | _ => []

def next (s : Feed) (call : EngineCall) : Feed where
  engine := call.apply s.engine
  ticks := if call.isTick then s.ticks + 1 else s.ticks
  pushed := if registers session call then [] else s.pushed ++ pushes session s.engine call
  received := if registers session call then [] else s.received ++ drains session s.engine call

def run (cfg : WorldConfig) (calls : List EngineCall) : Feed := calls.foldl (next session) (start cfg)

def deltaTicks (frames : List SessionFrame) : List UInt64 :=
  frames.filterMap fun
    | .Delta delta => some delta.tick
    | .WorldEvent _ => none

/-- What every client can rely on. -/
structure Disciplined (s : Feed) : Prop where
  bounded : (queueOf s.engine session).length ≤ 64
  inOrder : (s.received ++ queueOf s.engine session).Sublist s.pushed
  increasing : s.ticks < 2 ^ 64 → (deltaTicks s.received).Pairwise (· < ·)
  latest : ∀ ord clock delta, .Delta delta ∈ pushes session s.engine (.tick ord clock) →
    (queueOf (s.engine.tick ord clock) session).getLast? = some (.Delta delta)

end Feed

end LiveWorld.Spec

import LiveWorld.Server

/-!
# The task of a connection

Each connection has a task of its own. It puts commands into the channel of the command processor, and
after a creation it waits for the reply before it reads the next message.
-/

namespace LiveWorld

def EngineCommand.session : EngineCommand → SessionId
  | .CreateActor session .. => session
  | .MoveActor session _ => session
  | .ChatActor session _ => session
  | .DestroyActor session _ => session
  | .SessionDisconnect session => session

inductive TaskPhase
  | reading
  /-- the oneshot channel of the reply, with what has been sent on it -/
  | awaitingReply (reply : Option (Except String ActorId))
  | closed
  deriving DecidableEq, Repr

structure ConnectionTask where
  phase : TaskPhase
  hasActor : Bool
  /-- whether the delta pump runs -/
  pumpTask : Bool
  out : List ServerMessage
  deriving DecidableEq, Repr

namespace ConnectionTask

def new : ConnectionTask := ⟨.reading, false, false, []⟩

def sendError (self : ConnectionTask) (code : UInt32) (message : String) : ConnectionTask :=
  { self with out := self.out ++ [.Error code message] }

/-- The part before the await, with the command that it sends. -/
def handleClientCommand (self : ConnectionTask) (session : SessionId) :
    ClientCommand → ConnectionTask × Option EngineCommand
  | .CreateActor name personality backstory model position role faction =>
      if self.hasActor then (self.sendError 409 "Session already has an actor", none)
      else
        ({ self with phase := .awaitingReply none },
          some (.CreateActor session name personality backstory model position role faction))
  | .MoveActor _ dest => (self, some (.MoveActor session dest))
  | .ChatActor _ text => (self, some (.ChatActor session text))
  | .DestroyActor actorId =>
      ({ self with pumpTask := false, hasActor := false }, some (.DestroyActor session actorId))

/-- The part after `reply_rx.await`. -/
def receiveReply (self : ConnectionTask) : Except String ActorId → ConnectionTask
  | .ok actorId =>
      { phase := .reading, hasActor := true, pumpTask := true, out := self.out ++ [.ActorCreated actorId] }
  | .error e => { self with phase := .reading }.sendError 400 e

-- the cleanup after the last message
def disconnect (self : ConnectionTask) (session : SessionId) : ConnectionTask × EngineCommand :=
  ({ self with phase := .closed, pumpTask := false }, .SessionDisconnect session)

-- `reply.send`, which fails when nobody waits
def answer (self : ConnectionTask) (reply : Except String ActorId) : ConnectionTask :=
  match self.phase with
  | .awaitingReply _ => { self with phase := .awaitingReply (some reply) }
  | _ => self

end ConnectionTask

def channelCapacity : Nat := 4096

/-- A task whose command does not fit waits: it cannot take the step yet. -/
def sendCommand (channel : List EngineCommand) : Option EngineCommand → Option (List EngineCommand)
  | none => some channel
  | some cmd => if channel.length < channelCapacity then some (channel ++ [cmd]) else none

end LiveWorld

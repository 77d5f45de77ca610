import LiveWorld.Lib.Transition
import LiveWorld.Sessions
import LiveWorld.Spec.Freshness

/-!
# The life of a session

`Service` is the server with the tasks of its connections and the channel between them, together with
what has happened so far: who was spawned for whom, and whose disconnection has been handled.
-/

namespace LiveWorld.Spec
open HashTable

structure Service where
  server : Server
  channel : List EngineCommand
  nextSessionId : UInt64
  tasks : SessionId → Option ConnectionTask
  spawned : List (SessionId × ActorId)
  disconnected : List SessionId
  /-- the ids of all actors so far -/
  issued : List ActorId

inductive ServiceStep : Type 1
  | accept
  | receive (session : SessionId) (cmd : ClientCommand)
  | resume (session : SessionId)
  | close (session : SessionId)
  | process (ord : Order)
  | server (step : ServerStep)

def ServiceStep.connection : ServiceStep → Option SessionId
  | .receive session _ | .resume session | .close session => some session
  | _ => none

namespace Service

def start (cfg : WorldConfig) (stored : Except SnapshotError (Option WorldSnapshot)) : Service :=
  let server := Server.boot cfg stored
  { server
    channel := []
    nextSessionId := 1
    tasks := fun _ => none
    spawned := []
    disconnected := []
    issued := server.running.map fun dl => dl.spec.id }

def setTask (s : Service) (session : SessionId) (task : ConnectionTask) : Service :=
  { s with tasks := Function.update s.tasks session (some task) }

/-- The reply goes to the task that waits for it. -/
def deliver (s : Service) (session : SessionId) (reply : Option (Except String ActorId)) : Service :=
  match reply, s.tasks session with
  | some reply, some task => s.setTask session (task.answer reply)
  | _, _ => s

def created : Option (Except String ActorId) → Option ActorId
  | some (.ok id) => some id
  | _ => none

def leaver : EngineCommand → Option SessionId
  | .SessionDisconnect session => some session
  | _ => none

def handled (s : Service) (ord : Order) (cmd : EngineCommand) (rest : List EngineCommand) : Service :=
  let (reply, server) := s.server.process ord cmd
  { s with
    server
    channel := rest
    spawned := ((created reply).map fun id => (cmd.session, id)).toList ++ s.spawned
    disconnected := (leaver cmd).toList ++ s.disconnected
    issued := (created reply).toList ++ s.issued }.deliver cmd.session reply

def next (s : Service) : ServiceStep → Option Service
  | .accept =>
      let (session, nextSessionId) := SessionId.next s.nextSessionId
      some { s.setTask session .new with nextSessionId }
  | .receive session cmd =>
      (s.tasks session).bind fun task =>
        if task.phase = .reading then
          let (task, sent) := task.handleClientCommand session cmd
          (sendCommand s.channel sent).map fun channel => { s.setTask session task with channel }
        else none
  | .resume session =>
      (s.tasks session).bind fun task =>
        match task.phase with
        | .awaitingReply (some reply) => some (s.setTask session (task.receiveReply reply))
        | _ => none
  | .close session =>
      (s.tasks session).bind fun task =>
        if task.phase = .reading then
          let (task, sent) := task.disconnect session
          (sendCommand s.channel (some sent)).map fun channel => { s.setTask session task with channel }
        else none
  | .process ord =>
      match s.channel with
      | [] => none
      | cmd :: rest => some (s.handled ord cmd rest)
  | .server step =>
      match step with
      | .command _ _ => none
      | step => some { s with server := step.apply s.server }

/-- New sessions and new actors get ids that were not used before. -/
def FreshIds (s : Service) : ServiceStep → Prop
  | .accept => s.tasks ⟨s.nextSessionId⟩ = none
  | .process ord => ∀ cmd ∈ s.channel.head?, ∀ id ∈ created (s.server.process ord cmd).1, id ∉ s.issued
  | _ => True

instance (s : Service) (step : ServiceStep) : Decidable (FreshIds s step) := by
  cases step <;> unfold FreshIds <;> infer_instance

abbrev Reachable (cfg : WorldConfig) (stored : Except SnapshotError (Option WorldSnapshot)) : Service → Prop :=
  Transition.Reachable (· = start cfg stored) FreshIds next

def after (cfg : WorldConfig) (stored : Except SnapshotError (Option WorldSnapshot)) (steps : List ServiceStep) :
    Service :=
  (Transition.run next (start cfg stored) steps).getD (start cfg stored)

/-! ## The books of the sessions -/

def Live (s : Service) (id : ActorId) : Prop := id ∈ s.server.engine.runtime.actors

def Registered (s : Service) (session : SessionId) : Prop := session ∈ s.server.engine.sessionQueues

structure Lifecycle (s : Service) : Prop where
  oneActor : ∀ session id other, (session, id) ∈ s.spawned → (session, other) ∈ s.spawned →
    s.Live id → s.Live other → id = other
  sessionHandles : ∀ session, session ∈ s.server.sessionHandles ↔ s.Registered session
  decisionHandles : ∀ session, session ∈ s.server.decisionHandles ↔ s.Registered session
  anchors : ∀ session, session ∈ s.server.engine.interest.sessionAnchors ↔ s.Registered session
  owners : ∀ session, session ∈ s.server.engine.sessionToActor ↔ s.Registered session
  despawned : ∀ session ∈ s.disconnected, ∀ id, (session, id) ∈ s.spawned → ¬s.Live id
  aborted : ∀ session ∈ s.disconnected, ∀ dl ∈ s.server.running, (session, dl.spec.id) ∉ s.spawned
  silent : ∀ session ∈ s.disconnected, ∀ cmd ∈ s.channel, cmd.session ≠ session

/-- A creation that is refused, by the task or by the processor, with what it changes. -/
structure RefusalsChangeNothing (s : Service) : Prop where
  duplicate : ∀ session task name personality backstory model position role faction after,
    s.tasks session = some task → task.hasActor = true →
    s.next (.receive session (.CreateActor name personality backstory model position role faction)) = some after →
    after = s.setTask session (task.sendError 409 "Session already has an actor")
  tooLong : ∀ ord session name personality backstory model position role faction rest after,
    s.channel = .CreateActor session name personality backstory model position role faction :: rest →
    64 < name.utf8ByteSize ∨ 256 < personality.utf8ByteSize ∨ 512 < backstory.utf8ByteSize →
    s.next (.process ord) = some after →
    after.server = s.server ∧ after.spawned = s.spawned ∧ after.disconnected = s.disconnected

/-! ## Isolation -/

/-- What a step of the connection of `session` changes: its own task and the end of the channel. -/
structure HeardAlone (session : SessionId) (before after : Service) : Prop where
  server : after.server = before.server
  tasks : ∀ other, other ≠ session → after.tasks other = before.tasks other
  channel : ∃ sent : Option EngineCommand, after.channel = before.channel ++ sent.toList ∧
    ∀ cmd ∈ sent, cmd.session = session

/-- What handling a command of `session` changes: its own records, and an actor that was spawned for it. -/
structure Isolated (session : SessionId) (before after : Service) : Prop where
  spawns : ∀ id, after.Live id → ¬before.Live id → (session, id) ∈ after.spawned
  despawns : ∀ id, before.Live id → ¬after.Live id → (session, id) ∈ before.spawned
  actors : ∀ id, (session, id) ∉ after.spawned →
    after.server.engine.runtime.actors.lookup id = before.server.engine.runtime.actors.lookup id
  inboxes : ∀ id actor, before.server.engine.runtime.actors.lookup id = some actor → (session, id) ∉ before.spawned →
    after.server.engine.runtime.inboxes.pending actor.inbox =
      before.server.engine.runtime.inboxes.pending actor.inbox
  loops : ∀ dl, (session, dl.spec.id) ∉ after.spawned → (dl ∈ after.server.running ↔ dl ∈ before.server.running)
  sessionHandles : ∀ other, other ≠ session →
    after.server.sessionHandles.lookup other = before.server.sessionHandles.lookup other
  decisionHandles : ∀ other, other ≠ session →
    after.server.decisionHandles.lookup other = before.server.decisionHandles.lookup other
  owners : ∀ other, other ≠ session →
    after.server.engine.sessionToActor.lookup other = before.server.engine.sessionToActor.lookup other
  queues : ∀ other, other ≠ session →
    after.server.engine.sessionQueues.lookup other = before.server.engine.sessionQueues.lookup other
  anchors : ∀ other, other ≠ session →
    after.server.engine.interest.sessionAnchors.lookup other = before.server.engine.interest.sessionAnchors.lookup other
  tasks : ∀ other, other ≠ session → after.tasks other = before.tasks other

structure KeepsClientsApart (s : Service) : Prop where
  owners : ∀ session other id, (session, id) ∈ s.spawned → (other, id) ∈ s.spawned → session = other
  heard : ∀ step session after, step.connection = some session → s.next step = some after →
    HeardAlone session s after
  handled : ∀ ord cmd rest after, s.channel = cmd :: rest → s.FreshIds (.process ord) →
    s.next (.process ord) = some after → Isolated cmd.session s after

/-- The same message with another actor named in it. -/
def naming (id : ActorId) : ClientCommand → ClientCommand
  | .MoveActor _ dest => .MoveActor id dest
  | .ChatActor _ text => .ChatActor id text
  | .DestroyActor _ => .DestroyActor id
  | cmd => cmd

inductive Renamed : ServiceStep → ServiceStep → Prop
  | same (step : ServiceStep) : Renamed step step
  | receive (session : SessionId) (cmd : ClientCommand) (id : ActorId) :
      Renamed (.receive session cmd) (.receive session (naming id cmd))

/-- Whatever actors the clients name, the server goes through the same states. -/
def IgnoresNames (s : Service) : Prop :=
  ∀ steps renamed, List.Forall₂ Renamed steps renamed → ∀ n,
    (Transition.run next s (renamed.take n)).map Service.server =
      (Transition.run next s (steps.take n)).map Service.server

end Service

end LiveWorld.Spec

import LiveWorld.Page
import LiveWorld.Spec.Sessions

/-!
# Pages and the server

Every connection is that of a page. What the page sends is read in its order, or refused by the rate limiter; what the
task of the connection answers is heard in its order. In between, the page and the server know different things.
-/

namespace LiveWorld.Spec
open HashTable

structure Seat where
  page : Page
  /-- what the task has not read yet -/
  sent : List ClientCommand
  /-- how many messages of the task the page has heard -/
  heard : Nat

structure Lobby where
  service : Service
  seats : SessionId → Option Seat
  /-- for whom the rate limiter has refused a command -/
  refused : List SessionId

inductive LobbyStep : Type 1
  | accept
  | act (session : SessionId) (action : PageAction)
  | hear (session : SessionId)
  | read (session : SessionId)
  | refuse (session : SessionId)
  | leave (session : SessionId)
  | service (step : ServiceStep)

namespace Lobby

def start (cfg : WorldConfig) (stored : Except SnapshotError (Option WorldSnapshot)) : Lobby :=
  ⟨Service.start cfg stored, fun _ => none, []⟩

def setSeat (l : Lobby) (session : SessionId) (seat : Option Seat) : Lobby :=
  { l with seats := Function.update l.seats session seat }

def next (l : Lobby) : LobbyStep → Option Lobby
  | .accept =>
      (l.service.next .accept).map fun service =>
        { l with service }.setSeat ⟨l.service.nextSessionId⟩ (some ⟨.new, [], 0⟩)
  | .act session action =>
      (l.seats session).map fun seat =>
        let (page, cmd) := seat.page.act action
        l.setSeat session (some { seat with page, sent := seat.sent ++ cmd.toList })
  | .hear session =>
      (l.seats session).bind fun seat =>
        (l.service.tasks session).bind fun task =>
          (task.out[seat.heard]?).map fun msg =>
            l.setSeat session (some { seat with page := seat.page.handleMsg msg, heard := seat.heard + 1 })
  | .read session =>
      (l.seats session).bind fun seat =>
        match seat.sent with
        | [] => none
        | cmd :: rest =>
            (l.service.next (.receive session cmd)).map fun service =>
              { l with service }.setSeat session (some { seat with sent := rest })
  | .refuse session =>
      (l.seats session).bind fun seat =>
        (l.service.tasks session).bind fun task =>
          match seat.sent with
          | [] => none
          | _ :: rest =>
              if task.phase = .reading then
                let service := l.service.setTask session (task.sendError 429 "Rate limit exceeded")
                some ({ l with service, refused := session :: l.refused }.setSeat session (some { seat with sent := rest }))
              else none
  | .leave session =>
      (l.service.next (.close session)).map fun service => { l with service }.setSeat session none
  | .service step =>
      match step with
      | .accept | .receive _ _ | .close _ => none
      | step => (l.service.next step).map fun service => { l with service }

def FreshIds (l : Lobby) : LobbyStep → Prop
  | .accept => l.service.FreshIds .accept
  | .service step => l.service.FreshIds step
  | _ => True

instance (l : Lobby) (step : LobbyStep) : Decidable (l.FreshIds step) := by
  cases step <;> unfold FreshIds <;> infer_instance

abbrev Reachable (cfg : WorldConfig) (stored : Except SnapshotError (Option WorldSnapshot)) : Lobby → Prop :=
  Transition.Reachable (· = start cfg stored) FreshIds next

/-! ## Who has an actor -/

def announces : ServerMessage → Option ActorId
  | .ActorCreated id => some id
  | _ => none

def isDestroy : ClientCommand → Bool
  | .DestroyActor _ => true
  | _ => false

/-- The actors that the page shows, or is about to show. -/
def shownBy (seat : Seat) (task : ConnectionTask) : List ActorId :=
  seat.page.myActorId.toList ++ (task.out.drop seat.heard).filterMap announces

/-- How often the actor of a session is somewhere between the page and the task: shown, announced or on its way out. -/
def holdings (seat : Seat) (task : ConnectionTask) : Nat :=
  (shownBy seat task).length + seat.sent.countP isDestroy

structure Agrees (l : Lobby) (session : SessionId) (seat : Seat) (task : ConnectionTask) : Prop where
  /-- and the commands of the session go to it -/
  shown : ∀ id ∈ shownBy seat task, task.hasActor = true ∧ l.service.Live id ∧
    l.service.server.engine.sessionToActor.lookup session = some id ∧
    ∃ handle, l.service.server.sessionHandles.lookup session = some handle ∧ handle.id = id
  once : holdings seat task ≤ if task.hasActor then 1 else 0
  kept : session ∉ l.refused → holdings seat task = if task.hasActor then 1 else 0

end Lobby

end LiveWorld.Spec

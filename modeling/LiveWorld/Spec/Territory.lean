import LiveWorld.Client
import LiveWorld.Spec.Feed

/-!
# Who owns the zones, seen from the browser

The client of a session starts with its built-in table, which is not put back when the session is registered again,
and handles the frames of each drain of the session's queue in order.
-/

namespace LiveWorld.Spec
open HashTable

structure Spectator where
  engine : WorldEngine
  territory : Client.Territory

/-- The next point of `winner` in `zone` makes the zone change hands. -/
def Conquers (engine : WorldEngine) (zone : ZoneId) (winner : Faction) : Prop :=
  winner ≠ .Neutral ∧ (engine.territory.lookup zone).getD .Neutral ≠ winner ∧
    ((engine.zonePressure.lookup zone).getD (winner, 0)).1 = winner ∧
    5 ≤ ((engine.zonePressure.lookup zone).getD (winner, 0)).2 + 1

instance (engine : WorldEngine) (zone : ZoneId) (winner : Faction) : Decidable (Conquers engine zone winner) := by
  unfold Conquers
  infer_instance

/-- Whether an effect is an attack that captures the zone of the attacker. -/
def captures (engine : WorldEngine) : ActorEffect → Bool
  | .Interact source target action =>
      match engine.prevSnapshot.find? (fun s => s.id = source), engine.prevSnapshot.find? (fun s => s.id = target) with
      | some atk, some victim =>
          decide (action = "ATTACK") && atk.faction.isHostileTo victim.faction &&
            decide (Conquers engine (zoneOf atk.position) atk.faction)
      | _, _ => false
  | _ => false

namespace Spectator
variable (session : SessionId)

def start (cfg : WorldConfig) : Spectator := ⟨WorldEngine.new cfg, Client.territory⟩

def territoryAfter (s : Spectator) : EngineCall → Client.Territory
  | .drainSession drained =>
      if drained = session then (s.engine.drainSession session).1.foldl Client.handleFrame s.territory
      else s.territory
  | _ => s.territory

def next (s : Spectator) (call : EngineCall) : Spectator := ⟨call.apply s.engine, s.territoryAfter session call⟩

/-- Once it has drained its queue, the client has the engine's owner for each zone. -/
def OwnersAgree (s : Spectator) : Prop :=
  session ∈ s.engine.sessionQueues → ∀ zone,
    (s.engine.territory.lookup zone).map Faction.debug =
      some ((s.next session (.drainSession session)).territory zone)

/-- Each zone has the owner that the client has last read of, or has known from the start. -/
def UpToDate (s : Spectator) : Prop :=
  ∀ zone, (s.engine.territory.lookup zone).map Faction.debug = some (s.territory zone)

/-- Whoever the text says has captured a zone owns it. -/
def Truthful (engine : WorldEngine) (message : String) : Prop :=
  ∀ name zone, Client.capture message = some (name, zone) →
    (engine.territory.lookup zone).map Faction.debug = some name

/-- The captures among the effects find room in the queue. -/
def Announced (ord : Order) : WorldEngine → List ActorEffect → Prop
  | _, [] => True
  | engine, effect :: rest =>
      (captures engine effect = true → (queueOf engine session).length < 64) ∧
        Announced ord (WorldEngine.processEffect ord engine effect) rest

/-- A tick that has a frame for a session with 32 or more frames does not push out a capture. -/
def Kept (engine : WorldEngine) (ord : Order) (clock : SessionId → UInt64) : Prop :=
  32 ≤ (queueOf (engine.applyEffects ord) session).length → tickFrames engine ord clock session ≠ [] →
    ∀ message, (queueOf (engine.applyEffects ord) session).head? = some (.WorldEvent message) →
      Client.capture message = none

/-- The session is registered while the client is up to date, and every capture reaches the client, and nothing else
that looks like one. -/
def Heard (s : Spectator) : EngineCall → Prop
  | .spawnActorForSession _ _ opened => opened = session → UpToDate s
  | .broadcastWorldEvent message | .applyDirective (.NarrativeEvent message) =>
      session ∈ s.engine.sessionQueues → (queueOf s.engine session).length < 64 → Truthful s.engine message
  | .tick ord clock =>
      Announced session ord
        { s.engine with
          tickCount := s.engine.tickCount + 1
          runtime := (s.engine.runtime.tick ord (s.engine.tickCount + 1)).2 }
        (s.engine.runtime.tick ord (s.engine.tickCount + 1)).1 ∧
      Kept session s.engine ord clock
  | _ => True

instance Announced.decidable (ord : Order) : ∀ engine effects, Decidable (Announced session ord engine effects)
  | _, [] => .isTrue trivial
  | engine, effect :: rest =>
      have := Announced.decidable ord (WorldEngine.processEffect ord engine effect) rest
      inferInstanceAs (Decidable ((captures engine effect = true → (queueOf engine session).length < 64) ∧
        Announced session ord (WorldEngine.processEffect ord engine effect) rest))

end Spectator

abbrev SpectatorReachable (cfg : WorldConfig) (session : SessionId) (allowed : Spectator → EngineCall → Prop) :
    Spectator → Prop :=
  Transition.Reachable (· = Spectator.start cfg) allowed fun s call => some (s.next session call)

end LiveWorld.Spec

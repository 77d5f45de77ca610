import LiveWorld.Spec.EngineRun

/-!
# How a zone is captured

The history of an engine is the list of wins it was told about, in all zones.
-/

namespace LiveWorld.Spec
open HashTable

abbrev Win := ZoneId × Faction

def afterWins (cfg : WorldConfig) (history : List Win) : WorldEngine :=
  history.foldl (fun engine win => engine.shiftTerritory win.1 win.2) (WorldEngine.new cfg)

/-- Who won in `zone`, the last one at the end. -/
def winners (zone : ZoneId) (history : List Win) : List Faction :=
  (history.filter fun win => win.1 = zone).map Prod.snd

def ChangesOwner (engine : WorldEngine) (zone : ZoneId) (winner : Faction) : Prop :=
  engine.territory.lookup zone ≠ some winner ∧
    (engine.shiftTerritory zone winner).territory.lookup zone = some winner

/-- A win makes the zone change hands if and only if it is the fifth in a row. -/
def FifthInARow (cfg : WorldConfig) (history : List Win) (zone : ZoneId) (winner : Faction) : Prop :=
  ChangesOwner (afterWins cfg history) zone winner ↔
    winner ≠ .Neutral ∧ (afterWins cfg history).territory.lookup zone ≠ some winner ∧
      List.replicate 5 winner <:+ winners zone history ++ [winner]

/-- Four points of `winner` in the zone come from the last four wins there. -/
def Uninterrupted (cfg : WorldConfig) (history : List Win) (zone : ZoneId) (winner : Faction) : Prop :=
  (afterWins cfg history).zonePressure.lookup zone = some (winner, 4) →
    List.replicate 4 winner <:+ winners zone history

/-! ## Owners and points -/

/-- A call of `shift_territory`, or what happens to the queues of the sessions in between. -/
inductive ZoneStep
  | shift (zone : ZoneId) (winner : Faction)
  | sessions (queues : HashMap SessionId SessionQueue)

def ZoneStep.apply (engine : WorldEngine) : ZoneStep → WorldEngine
  | .shift zone winner => engine.shiftTerritory zone winner
  | .sessions queues => { engine with sessionQueues := queues }

def afterSteps (cfg : WorldConfig) (steps : List ZoneStep) : WorldEngine :=
  steps.foldl ZoneStep.apply (WorldEngine.new cfg)

structure Contested (engine : WorldEngine) : Prop where
  owned : ∀ zone, ∃ owner, engine.territory.lookup zone = some owner
  rivals : ∀ zone faction points, engine.zonePressure.lookup zone = some (faction, points) →
    1 ≤ points.toNat ∧ points.toNat ≤ 4 ∧ faction ≠ .Neutral ∧ engine.territory.lookup zone ≠ some faction

def captureText (zone : ZoneId) (winner : Faction) : String := s!"🏴 {winner.debug} has captured {zone.label}!"

/-- What a call may do: the points fit, nobody loses a zone to nobody, and a new owner is announced once. -/
structure ShiftsFairly (engine : WorldEngine) (zone : ZoneId) (winner : Faction) : Prop where
  fits : ((engine.zonePressure.lookup zone).getD (winner, 0)).2.toNat + 1 < 256
  named : ∀ other, (engine.shiftTerritory zone winner).territory.lookup other = some .Neutral →
    engine.territory.lookup other = some .Neutral
  changed : ∀ other, (engine.shiftTerritory zone winner).territory.lookup other ≠ engine.territory.lookup other →
    other = zone ∧ (engine.shiftTerritory zone winner).territory.lookup zone = some winner ∧
      zone ∉ (engine.shiftTerritory zone winner).zonePressure ∧
      (engine.shiftTerritory zone winner).sessionQueues =
        (engine.broadcastWorldEvent (captureText zone winner)).sessionQueues
  silent : (∀ other, (engine.shiftTerritory zone winner).territory.lookup other = engine.territory.lookup other) →
    (engine.shiftTerritory zone winner).sessionQueues = engine.sessionQueues

end LiveWorld.Spec

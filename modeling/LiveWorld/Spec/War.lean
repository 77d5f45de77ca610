import LiveWorld.Spec.Attack
import LiveWorld.Spec.EngineRun
import LiveWorld.Spec.Orders
import LiveWorld.Spec.Vitals

/-!
# War between the factions

Nobody but `resolve_combat` sends damage or experience: what clients, decision loops and directives send is civil. A
`Chronicle` is a world with the effects that all its ticks have had so far.
-/

namespace LiveWorld.Spec
open HashTable

def Civil : ActorMessage → Prop
  | .Move _ | .Speak _ | .Interact _ _ => True
  | _ => False

instance : ∀ msg, Decidable (Civil msg)
  | .Move _ | .Speak _ | .Interact _ _ => .isTrue trivial
  | .TakeDamage _ _ | .GainXp _ | .Shutdown => .isFalse not_false

/-- The factions that are hostile to another one. -/
def Warring (faction : Faction) : Prop := faction = .Empire ∨ faction = .Alliance

structure Chronicle where
  world : World
  log : List ActorEffect

namespace Chronicle

def start (cfg : WorldConfig) : Chronicle := ⟨World.start cfg, []⟩

/-- The effects of a call, in the order in which the engine processes them. -/
def reported (engine : WorldEngine) : EngineCall → List ActorEffect
  | .tick ord _ => (engine.runtime.tick ord (engine.tickCount + 1)).1
  | _ => []

def next (c : Chronicle) (call : EngineCall) : Chronicle :=
  ⟨c.world.next call, c.log ++ reported c.world.engine call⟩

/-- Actor ids are new, and callers send civil messages. -/
def Allowed (c : Chronicle) (call : EngineCall) : Prop := c.world.Distinct call ∧ ∀ msg ∈ call.sent, Civil msg

instance (c : Chronicle) (call : EngineCall) : Decidable (c.Allowed call) :=
  inferInstanceAs (Decidable ((∀ spec ∈ call.spawned, spec.id ∉ c.world.actorIds) ∧ ∀ msg ∈ call.sent, Civil msg))

end Chronicle

abbrev ChronicleReachable (cfg : WorldConfig) : Chronicle → Prop :=
  Transition.Reachable (· = Chronicle.start cfg) Chronicle.Allowed fun c call => some (c.next call)

/-! ## Those who do not fight -/

def isCivil : ActorEffect → Bool
  | .Move _ _ | .Speak _ _ | .Interact _ _ _ => true
  | _ => false

/-- As it was born, apart from its place and its words, and nothing else was ever reported of it. -/
structure Unscathed (actor : Actor) (own : List ActorEffect) : Prop where
  hp : actor.state.hp = actor.state.maxHp
  xp : actor.state.xp = 0
  level : actor.state.level = 1
  quiet : ∀ effect ∈ own, isCivil effect = true

/-- Only factions at war take zones, or are about to. -/
structure HeldByWarriors (engine : WorldEngine) : Prop where
  owners : ∀ zone owner, engine.territory.lookup zone = some owner →
    WorldEngine.initialTerritory.lookup zone = some owner ∨ Warring owner
  pressure : ∀ zone entry, engine.zonePressure.lookup zone = some entry → Warring entry.1

structure Neutrality (c : Chronicle) : Prop where
  unscathed : ∀ id actor, c.world.engine.runtime.actors.lookup id = some actor → ¬Warring actor.spec.faction →
    Unscathed actor (effectsFrom id c.log)
  zones : HeldByWarriors c.world.engine

/-! ## Those who do -/

def attackBy (id : ActorId) : ActorEffect → Bool
  | .Interact source _ action => decide (source = id) && decide (action = "ATTACK")
  | _ => false

def attackOn (id : ActorId) : ActorEffect → Bool
  | .Interact _ target action => decide (target = id) && decide (action = "ATTACK")
  | _ => false

def levelReached : ActorEffect → Option Nat
  | .LevelUp _ _ level => some level.toNat
  | _ => none

/-- The level is that of the experience, each level was announced once and in order, and experience comes from attacks
only, thirty points for one at the most. -/
structure Career (id : ActorId) (actor : Actor) (log : List ActorEffect) : Prop where
  level : actor.state.level.toNat = min (actor.state.xp.toNat / 100 + 1) 10
  announced : (effectsFrom id log).filterMap levelReached = List.range' 2 (actor.state.level.toNat - 1)
  earned : actor.state.xp.toNat ≤ 30 * log.countP (attackBy id)

def woundsOf (id : ActorId) (log : List ActorEffect) : List ActorEffect := (effectsFrom id log).filter isReport

/-- No blow kills an actor that was not hurt before, and every wound comes from an attack. -/
structure FairDeaths (id : ActorId) (log : List ActorEffect) : Prop where
  weakened : ∀ before name killer after, woundsOf id log = before ++ .Died id name killer :: after →
    ∃ hp, before.getLast? = some (.Damaged id hp)
  struck : (woundsOf id log).length ≤ log.countP (attackOn id)

end LiveWorld.Spec

import LiveWorld.Proof.Engine.Sound

/-!
# Properties of single actors

A property that a new actor has and that neither a message, a move nor a tick takes from an actor holds
of every actor in every run, whatever ids are used and whatever is sent.
-/

namespace LiveWorld.Proof.Engine
open HashTable Spec Proof.Runtime
variable {cfg : WorldConfig} {rt : ActorRuntime} {engine : WorldEngine} {Q : ActorId → Actor → Prop}

structure Lasting (Q : ActorId → Actor → Prop) : Prop where
  ticked : ∀ id actor tickNum, Q id actor → Q id (actor.tick tickNum)
  handled : ∀ id actor msg, Q id actor → Q id (actor.handleMessage msg).1
  moved : ∀ id actor dest cell, Q id actor → Q id (actor.applyMove dest cell)

structure Durable (Q : ActorId → Actor → Prop) : Prop extends Lasting Q where
  born : ∀ rt spec, Q spec.id (newborn rt spec)

def All (Q : ActorId → Actor → Prop) (rt : ActorRuntime) : Prop :=
  ∀ id actor, rt.actors.lookup id = some actor → Q id actor

theorem all_spawn (durable : Durable Q) (all : All Q rt) (spec : ActorSpec) : All Q (rt.spawnActor spec).2 := by
  intro id actor found
  rw [spawnActor_lookup] at found
  split_ifs at found with same
  · cases found
    rw [same]
    exact durable.born rt spec
  · exact all id actor found

theorem all_despawn (all : All Q rt) (gone : ActorId) : All Q (rt.despawnActor gone).2 := by
  intro id actor found
  rw [despawnActor_lookup] at found
  split_ifs at found
  exact all id actor found

theorem applyMoves_lasting (lasting : Lasting Q) {id : ActorId} {actor : Actor} (holds : Q id actor)
    (grid : SpatialGrid) (effects : List ActorEffect) : Q id (ActorRuntime.applyMoves grid actor effects).2 := by
  induction effects generalizing grid actor with
  | nil => exact holds
  | cons effect rest ih =>
      cases effect with
      | Move mover dest => exact ih (lasting.moved id actor dest _ holds) _
      | _ => exact ih holds grid

theorem all_tickActor (lasting : Lasting Q) {loop : ActorRuntime.TickLoop} (all : All Q loop.runtime)
    (tickNum : UInt64) {entry : (_ : ActorId) × Actor} (holds : Q entry.1 entry.2) :
    All Q (ActorRuntime.tickActor tickNum loop entry).runtime := by
  intro id actor found
  simp only [ActorRuntime.tickActor, HashMap.lookup_insert_eq] at found
  split_ifs at found with same
  · cases found
    rw [same]
    apply applyMoves_lasting lasting
    exact drainInbox_invariant (lasting.handled entry.1) (lasting.ticked _ _ tickNum holds) _
  · exact all id actor found

theorem all_rounds (lasting : Lasting Q) (tickNum : UInt64) (todo : List ((_ : ActorId) × Actor))
    {loop : ActorRuntime.TickLoop} (all : All Q loop.runtime) (holds : ∀ entry ∈ todo, Q entry.1 entry.2) :
    All Q (todo.foldl (ActorRuntime.tickActor tickNum) loop).runtime := by
  induction todo generalizing loop with
  | nil => exact all
  | cons entry rest ih =>
      apply ih (all_tickActor lasting all tickNum (holds entry List.mem_cons_self))
      exact fun later member => holds later (List.mem_cons_of_mem _ member)

theorem all_despawnAll (ids : List ActorId) (all : All Q rt) :
    All Q (ids.foldl (fun rt id => (rt.despawnActor id).2) rt) := by
  induction ids generalizing rt with
  | nil => exact all
  | cons first rest ih => exact ih (all_despawn all first)

theorem all_tick (lasting : Lasting Q) (all : All Q rt) (ord : Order) (tickNum : UInt64) :
    All Q (rt.tick ord tickNum).2 := by
  apply all_despawnAll
  apply all_rounds lasting tickNum _ all
  intro entry member
  exact all entry.1 entry.2 (HashMap.mem_entries_iff.mp (ord.mem_visit.mp member))

/-! ## The engine -/

theorem all_of_actors {rt' : ActorRuntime} (all : All Q rt) (same : rt'.actors = rt.actors) : All Q rt' := by
  intro id actor found
  rw [same] at found
  exact all id actor found

theorem all_engineTick (lasting : Lasting Q) (all : All Q engine.runtime) (ord : Order) (clock : SessionId → UInt64) :
    All Q (engine.tick ord clock).runtime := by
  rw [(finished_tick engine ord clock).runtime]
  exact all_of_actors (all_tick lasting all ord (engine.tickCount + 1)) (effected_applyEffects engine ord).actors

theorem all_removeSession (all : All Q engine.runtime) (session : SessionId) (despawn : Bool) :
    All Q (engine.removeSession session despawn).runtime := by
  unfold WorldEngine.removeSession
  cases despawn with
  | false => exact all
  | true =>
      cases engine.sessionToActor.lookup session with
      | none => exact all
      | some id => exact all_despawn all id

theorem all_call (durable : Durable Q) (all : All Q engine.runtime) (call : EngineCall) :
    All Q (call.apply engine).runtime := by
  cases call with
  | spawnActorForSession ord spec session => exact all_spawn durable all spec
  | spawnActorStandalone spec => exact all_spawn durable all spec
  | removeSession session despawn => exact all_removeSession all session despawn
  | despawnActor id => exact all_despawn all id
  | send handle msg => exact all
  | applyDirective directive => exact all_of_actors all (effected_applyDirective engine directive).actors
  | broadcastWorldEvent message => exact all
  | drainSession session =>
      simp only [EngineCall.apply, WorldEngine.drainSession]
      cases engine.sessionQueues.lookup session <;> exact all
  | tick ord clock => exact all_engineTick durable.toLasting all ord clock

theorem all_reachable (durable : Durable Q) {allowed : World → EngineCall → Prop} {w : World}
    (reachable : WorldReachable cfg allowed w) : All Q w.engine.runtime := by
  apply reachable.invariant
  · intro w first
    subst first
    exact fun id _ found => absurd (HashMap.mem_of_lookup found) (AList.notMem_empty id)
  · intro w call after all _ moved
    cases moved
    exact all_call durable all call

end LiveWorld.Proof.Engine

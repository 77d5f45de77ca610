import LiveWorld.Proof.Engine.Calls
import LiveWorld.Spec.Twin

/-!
# Engines at peace

What is seen of an actor is the actor and the messages waiting for it; the ring they wait in may be any. As long as
nobody attacks, a call changes what is seen of each actor by a function of that alone.
-/

namespace LiveWorld.Proof.Engine
open HashTable Spec Proof.Runtime
variable {rt : ActorRuntime} {engine : WorldEngine} {ord : Order}

/-! ## One actor -/

def unwired (actor : Actor) : Actor := { actor with inbox := 0 }

theorem handleMessage_unwired (actor : Actor) (msg : ActorMessage) :
    (unwired actor).handleMessage msg = (unwired (actor.handleMessage msg).1, (actor.handleMessage msg).2) := by
  cases msg with
  | TakeDamage amount fromName =>
      by_cases dead : Machine.saturatingSub8 actor.state.hp amount = 0
      · simp only [Actor.handleMessage, Actor.takeDamage, unwired, if_pos dead]
        exact if_pos dead
      · simp only [Actor.handleMessage, Actor.takeDamage, unwired, if_neg dead]
        exact if_neg dead
  | GainXp amount =>
      by_cases risen : min ((Machine.saturatingAdd32 actor.state.xp amount / 100).toUInt8 + 1) 10 > actor.state.level
      · simp only [Actor.handleMessage, Actor.gainXp, unwired, if_pos risen]
        exact if_pos risen
      · simp only [Actor.handleMessage, Actor.gainXp, unwired, if_neg risen]
        exact if_neg risen
  | _ => rfl

theorem drainInbox_unwired (messages : List ActorMessage) (actor : Actor) :
    (unwired actor).drainInbox messages =
      (unwired (actor.drainInbox messages).1, (actor.drainInbox messages).2) := by
  induction messages generalizing actor with
  | nil => rfl
  | cons msg rest ih =>
      simp only [Actor.drainInbox, handleMessage_unwired, ih]
      split_ifs <;> rfl

theorem relocate_unwired (cellSize : Rat) (effects : List ActorEffect) (actor : Actor) :
    relocate cellSize (unwired actor) effects = unwired (relocate cellSize actor effects) := by
  induction effects generalizing actor with
  | nil => rfl
  | cons effect rest ih =>
      cases effect with
      | Move mover dest => exact ih (actor.applyMove dest (dest.toGridCell cellSize))
      | _ => exact ih actor

theorem afterTick_unwired (cellSize : Rat) (tickNum : UInt64) (messages : List ActorMessage) (actor : Actor) :
    afterTick cellSize tickNum messages (unwired actor) = unwired (afterTick cellSize tickNum messages actor) := by
  have drained_eq : drained tickNum messages (unwired actor) =
      (unwired (drained tickNum messages actor).1, (drained tickNum messages actor).2) :=
    drainInbox_unwired messages (actor.tick tickNum)
  rw [afterTick, drained_eq]
  exact relocate_unwired _ _ _

/-! ## What is seen of the actors -/

def view (rt : ActorRuntime) (id : ActorId) : Option (Actor × List ActorMessage) :=
  (rt.actors.lookup id).map fun actor => (unwired actor, rt.inboxes.pending actor.inbox)

def wire (rt : ActorRuntime) (id : ActorId) : Option QueueRef := (rt.actors.lookup id).map Actor.inbox

theorem view_isSome (rt : ActorRuntime) (id : ActorId) : (view rt id).isSome ↔ id ∈ rt.actors := by
  rw [view, Option.isSome_map, AList.lookup_isSome]

theorem wire_isSome (rt : ActorRuntime) (id : ActorId) : (wire rt id).isSome ↔ id ∈ rt.actors := by
  rw [wire, Option.isSome_map, AList.lookup_isSome]

def hatched (cellSize : Rat) (spec : ActorSpec) : Actor :=
  unwired ((Actor.spawn .empty spec).1.1.activate (spec.position.toGridCell cellSize))

theorem view_spawn (inv : Wired rt) (spec : ActorSpec) (id : ActorId) :
    view (rt.spawnActor spec).2 id =
      if id = spec.id then some (hatched rt.grid.cellSize spec, []) else view rt id := by
  have pending : (rt.spawnActor spec).2.inboxes.pending = Function.update rt.inboxes.pending rt.inboxes.next [] := rfl
  rw [view, spawnActor_lookup, pending]
  split_ifs with mine
  · refine congrArg some (Prod.ext rfl ?_)
    exact Function.update_self _ _ _
  · rw [view]
    cases found : rt.actors.lookup id with
    | none => rfl
    | some actor =>
        rw [Option.map_some, Option.map_some, Function.update_of_ne (Nat.ne_of_lt (inv.allocated id actor found))]

theorem wire_spawn (rt : ActorRuntime) (spec : ActorSpec) (id : ActorId) :
    wire (rt.spawnActor spec).2 id = if id = spec.id then some rt.inboxes.next else wire rt id := by
  rw [wire, spawnActor_lookup]
  split_ifs <;> rfl

theorem view_despawn (rt : ActorRuntime) (gone id : ActorId) :
    view (rt.despawnActor gone).2 id = if id = gone then none else view rt id := by
  rw [view, despawnActor_lookup, despawnActor_inboxes]
  split_ifs <;> rfl

theorem wire_despawn (rt : ActorRuntime) (gone id : ActorId) :
    wire (rt.despawnActor gone).2 id = if id = gone then none else wire rt id := by
  rw [wire, despawnActor_lookup]
  split_ifs <;> rfl

def offer (msg : ActorMessage) (seen : Actor × List ActorMessage) : Actor × List ActorMessage :=
  if seen.2.length < queueSize - 1 then (seen.1, seen.2 ++ [msg]) else seen

theorem view_send (rt : ActorRuntime) (handle : ActorHandle) (msg : ActorMessage) (id : ActorId) :
    view (rt.send handle msg).2 id =
      (view rt id).map (if wire rt id = some handle.sender then offer msg else fun seen => seen) := by
  have pending (ref : QueueRef) : (rt.send handle msg).2.inboxes.pending ref = _ :=
    pending_send handle rt.inboxes msg ref
  change (rt.actors.lookup id).map (fun actor => (unwired actor, (rt.send handle msg).2.inboxes.pending actor.inbox)) =
    ((rt.actors.lookup id).map _).map (if (rt.actors.lookup id).map Actor.inbox = some handle.sender then _ else _)
  cases rt.actors.lookup id with
  | none => rfl
  | some actor =>
      simp only [Option.map_some, pending, Option.some.injEq]
      by_cases mine : actor.inbox = handle.sender
      · simp only [mine, true_and, if_true, offer]
        split_ifs <;> rfl
      · simp only [mine, false_and, if_false]

theorem view_sendToActor (inv : Wired engine.runtime) (target : ActorId) (msg : ActorMessage) (id : ActorId) :
    view (engine.sendToActor target msg).2.runtime id =
      (view engine.runtime id).map (if id = target then offer msg else fun seen => seen) := by
  unfold view
  rw [(effected_sendToActor engine target msg).actors]
  cases live : engine.runtime.actors.lookup id with
  | none => rfl
  | some actor =>
      simp only [Option.map_some, pending_sendToActor inv live]
      by_cases mine : id = target
      · subst mine
        simp only [true_and, if_true, offer]
        split_ifs <;> rfl
      · simp only [if_neg mine, if_neg fun both : target = id ∧ _ => mine both.1.symm]

/-! ## At peace -/

/-- Nobody is about to attack or to leave. -/
structure Calm (engine : WorldEngine) : Prop where
  wired : Wired engine.runtime
  peaceful : ∀ ref, ∀ msg ∈ engine.runtime.inboxes.pending ref, Peaceful msg
  active : ∀ id actor, engine.runtime.actors.lookup id = some actor → actor.lifecycle = .Active

theorem calm_new (cfg : WorldConfig) : Calm (WorldEngine.new cfg) := by
  refine ⟨(consistent_new cfg).toWired, fun ref msg member => absurd member List.not_mem_nil, ?_⟩
  exact fun id actor found => absurd (HashMap.mem_of_lookup found) (AList.notMem_empty id)

theorem Calm.running (inv : Calm engine) (ref : QueueRef) : .Shutdown ∉ engine.runtime.inboxes.pending ref :=
  fun member => (inv.peaceful ref _ member).1 rfl

def Attacks : ActorEffect → Prop
  | .Interact _ _ action => action = "ATTACK"
  | _ => False

theorem drainInbox_peaceful {messages : List ActorMessage} (peaceful : ∀ msg ∈ messages, Peaceful msg) (actor : Actor) :
    ∀ effect ∈ (actor.drainInbox messages).2.1, ¬Attacks effect := by
  induction messages generalizing actor with
  | nil => exact fun effect member => absurd member List.not_mem_nil
  | cons msg rest ih =>
      have now : ∀ effect ∈ (actor.handleMessage msg).2, ¬Attacks effect := by
        intro effect member attacks
        cases msg with
        | Interact target action =>
            rw [Actor.handleMessage, List.mem_singleton] at member
            subst member
            obtain rfl : action = "ATTACK" := attacks
            exact (peaceful _ List.mem_cons_self).2 target rfl
        | TakeDamage amount fromName =>
            simp only [Actor.handleMessage, Actor.takeDamage] at member
            split_ifs at member <;> rw [List.mem_singleton] at member <;> subst member <;> exact attacks
        | GainXp amount =>
            simp only [Actor.handleMessage, Actor.gainXp] at member
            split_ifs at member
            · rw [List.mem_singleton] at member
              subst member
              exact attacks
            · cases member
        | Shutdown => cases member
        | _ =>
            rw [Actor.handleMessage, List.mem_singleton] at member
            subst member
            exact attacks
      simp only [Actor.drainInbox]
      split_ifs
      · exact now
      · exact List.forall_mem_append.mpr ⟨now, ih (fun later member => peaceful later (List.mem_cons_of_mem _ member)) _⟩

theorem processEffect_runtime {effect : ActorEffect} (harmless : ¬Attacks effect) (engine : WorldEngine) (ord : Order) :
    (WorldEngine.processEffect ord engine effect).runtime = engine.runtime := by
  cases effect with
  | Move id dest =>
      simp only [WorldEngine.processEffect, WorldEngine.followAnchor]
      cases (engine.runtime.snapshotAll ord).find? fun s => s.id = id <;> rfl
  | Interact source target action => exact congrArg WorldEngine.runtime (if_neg harmless)
  | _ => rfl

theorem effects_runtime {effects : List ActorEffect} (harmless : ∀ effect ∈ effects, ¬Attacks effect)
    (engine : WorldEngine) (ord : Order) :
    (effects.foldl (WorldEngine.processEffect ord) engine).runtime = engine.runtime := by
  induction effects generalizing engine with
  | nil => rfl
  | cons effect rest ih =>
      refine (ih (fun later member => harmless later (List.mem_cons_of_mem _ member)) _).trans ?_
      exact processEffect_runtime (harmless effect List.mem_cons_self) engine ord

theorem Calm.tick_runtime (inv : Calm engine) (ord : Order) (clock : SessionId → UInt64) :
    (engine.tick ord clock).runtime = (engine.runtime.tick ord (engine.tickCount + 1)).2 := by
  have harmless : ∀ effect ∈ (engine.runtime.tick ord (engine.tickCount + 1)).1, ¬Attacks effect := by
    intro effect member
    rw [(tick_spec inv.wired ord _).effects, List.mem_flatMap] at member
    obtain ⟨entry, -, emitted⟩ := member
    exact drainInbox_peaceful (inv.peaceful entry.2.inbox) _ effect emitted
  rw [(finished_tick engine ord clock).runtime]
  exact effects_runtime harmless (afterDrain engine ord) ord

def advance (cellSize : Rat) (tickNum : UInt64) (seen : Actor × List ActorMessage) : Actor × List ActorMessage :=
  (afterTick cellSize tickNum seen.2 seen.1, [])

theorem Calm.lookup_tick (inv : Calm engine) (ord : Order) (clock : SessionId → UInt64) (id : ActorId) :
    (engine.tick ord clock).runtime.actors.lookup id =
      (engine.runtime.actors.lookup id).map (ticked engine.runtime (engine.tickCount + 1)) := by
  rw [inv.tick_runtime]
  exact tick_running inv.wired inv.active inv.running ord _ id

theorem Calm.view_tick (inv : Calm engine) (ord : Order) (clock : SessionId → UInt64) (id : ActorId) :
    view (engine.tick ord clock).runtime id =
      (view engine.runtime id).map (advance engine.runtime.grid.cellSize (engine.tickCount + 1)) := by
  have tick := tick_spec inv.wired ord (engine.tickCount + 1)
  rw [view, view, inv.lookup_tick]
  cases found : engine.runtime.actors.lookup id with
  | none => rfl
  | some actor =>
      have same := (afterTick_same engine.runtime.grid.cellSize (engine.tickCount + 1)
        (engine.runtime.inboxes.pending actor.inbox) actor).inbox
      have left := tick.left id actor found
      rw [leftOf, drained, (drainInbox_running (inv.running _) _).2] at left
      simp only [Option.map_some, advance, afterTick_unwired]
      refine congrArg some (Prod.ext rfl ?_)
      rw [inv.tick_runtime, same]
      exact left

theorem Calm.wire_tick (inv : Calm engine) (ord : Order) (clock : SessionId → UInt64) (id : ActorId) :
    wire (engine.tick ord clock).runtime id = wire engine.runtime id := by
  rw [wire, wire, inv.lookup_tick, Option.map_map]
  congr 1
  funext actor
  exact (afterTick_same _ _ _ _).inbox

theorem Calm.tick (inv : Calm engine) (ord : Order) (clock : SessionId → UInt64) : Calm (engine.tick ord clock) := by
  have tick := tick_spec inv.wired ord (engine.tickCount + 1)
  refine ⟨wired_call (.tick ord clock) inv.wired, ?_, ?_⟩
  · rw [inv.tick_runtime]
    exact fun ref msg member => inv.peaceful ref msg (tick.kept ref msg member)
  · intro id actor found
    rw [inv.lookup_tick, Option.map_eq_some_iff] at found
    obtain ⟨old, before, rfl⟩ := found
    rw [ticked, afterTick_lifecycle, drained, (drainInbox_running (inv.running _) _).1]
    exact inv.active id old before

theorem Calm.spawn (inv : Calm engine) (spec : ActorSpec) :
    Calm { engine with runtime := (engine.runtime.spawnActor spec).2 } := by
  refine ⟨inv.wired.spawn spec, ?_, ?_⟩
  · intro ref msg member
    change msg ∈ Function.update engine.runtime.inboxes.pending engine.runtime.inboxes.next [] ref at member
    by_cases mine : ref = engine.runtime.inboxes.next
    · rw [mine, Function.update_self] at member
      cases member
    · rw [Function.update_of_ne mine] at member
      exact inv.peaceful ref msg member
  · intro id actor found
    rcases spawnActor_either found with ⟨-, rfl⟩ | ⟨-, old⟩
    · rfl
    · exact inv.active id actor old

theorem Calm.despawn (inv : Calm engine) (gone : ActorId) :
    Calm { engine with runtime := (engine.runtime.despawnActor gone).2 } := by
  refine ⟨inv.wired.despawn gone, ?_, ?_⟩
  · rw [despawnActor_inboxes]
    exact inv.peaceful
  · intro id actor found
    rw [despawnActor_lookup] at found
    split_ifs at found
    exact inv.active id actor found

theorem Calm.effected {allowed : ActorMessage → Prop} {after : WorldEngine} (inv : Calm engine)
    (effected : Effected allowed engine after) (peaceful : ∀ msg, allowed msg → Peaceful msg) : Calm after := by
  refine ⟨effected.wired inv.wired, ?_, ?_⟩
  · intro ref msg member
    rcases effected.pending ref msg member with old | new
    · exact inv.peaceful ref msg old
    · exact peaceful msg new
  · rw [effected.actors]
    exact inv.active

theorem Calm.congr {after : WorldEngine} (inv : Calm engine) (same : after.runtime = engine.runtime) : Calm after :=
  ⟨same ▸ inv.wired, same ▸ inv.peaceful, same ▸ inv.active⟩

theorem Calm.call (call : EngineCall) (inv : Calm engine) (peaceful : ∀ msg ∈ call.sent, Peaceful msg) :
    Calm (call.apply engine) := by
  cases call with
  | spawnActorForSession ord spec session => exact (inv.spawn spec).congr rfl
  | spawnActorStandalone spec => exact inv.spawn spec
  | removeSession session despawn =>
      rw [EngineCall.apply]
      rcases removeSession_runtime engine session despawn with same | ⟨id, same⟩
      · exact inv.congr same
      · exact (inv.despawn id).congr same
  | despawnActor id => exact (inv.despawn id).congr rfl
  | send handle msg => exact inv.effected (effected_send engine handle msg) fun other same => peaceful other (congrArg some same.symm)
  | applyDirective directive => exact inv.effected (effected_applyDirective engine directive) peaceful
  | broadcastWorldEvent message => exact inv.congr rfl
  | drainSession session =>
      simp only [EngineCall.apply, WorldEngine.drainSession]
      cases engine.sessionQueues.lookup session <;> exact inv.congr rfl
  | tick ord clock => exact inv.tick ord clock

end LiveWorld.Proof.Engine

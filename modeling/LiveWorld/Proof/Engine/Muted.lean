import LiveWorld.Proof.Engine.Calls
import LiveWorld.Spec.GlobalAgents

/-!
# The world does not listen

Nothing that an engine does depends on what waits in the queues of its sessions.
-/

namespace LiveWorld.Proof.Engine
open HashTable Spec
variable {engine one other : WorldEngine}

theorem muted_runtime (engine : WorldEngine) : (muted engine).runtime = engine.runtime := rfl

theorem muted_prevSnapshot (engine : WorldEngine) : (muted engine).prevSnapshot = engine.prevSnapshot := rfl

theorem muted_sessionToActor (engine : WorldEngine) : (muted engine).sessionToActor = engine.sessionToActor := rfl

theorem muted_broadcastWorldEvent (engine : WorldEngine) (message : String) :
    muted (engine.broadcastWorldEvent message) = muted engine := rfl

theorem broadcastWorldEvent_muted (engine : WorldEngine) (message : String) :
    (muted engine).broadcastWorldEvent message = muted engine := rfl

theorem sendToActor_muted (engine : WorldEngine) (id : ActorId) (msg : ActorMessage) :
    ((muted engine).sendToActor id msg).2 = muted (engine.sendToActor id msg).2 := by
  rw [WorldEngine.sendToActor, WorldEngine.sendToActor, muted_runtime]
  cases engine.runtime.handle id <;> rfl

theorem shiftTerritory_muted (engine : WorldEngine) (zone : ZoneId) (winner : Faction) :
    (muted engine).shiftTerritory zone winner = muted (engine.shiftTerritory zone winner) := by
  unfold WorldEngine.shiftTerritory
  simp only [apply_ite muted]
  rfl

theorem resolveCombat_muted (engine : WorldEngine) (source target : ActorId) :
    (muted engine).resolveCombat source target = muted (engine.resolveCombat source target) := by
  rw [WorldEngine.resolveCombat, WorldEngine.resolveCombat, muted_prevSnapshot]
  cases engine.prevSnapshot.find? fun s => s.id = source with
  | none => rfl
  | some atk =>
      cases engine.prevSnapshot.find? fun s => s.id = target with
      | none => rfl
      | some victim =>
          simp only [apply_ite muted, muted_broadcastWorldEvent, sendToActor_muted, shiftTerritory_muted,
            broadcastWorldEvent_muted]

theorem followAnchor_muted (engine : WorldEngine) (ord : Order) (id : ActorId) :
    (muted engine).followAnchor ord id = muted (engine.followAnchor ord id) := by
  rw [WorldEngine.followAnchor, WorldEngine.followAnchor, muted_runtime]
  cases (engine.runtime.snapshotAll ord).find? fun s => s.id = id <;> rfl

theorem processEffect_muted (engine : WorldEngine) (ord : Order) (effect : ActorEffect) :
    WorldEngine.processEffect ord (muted engine) effect = muted (WorldEngine.processEffect ord engine effect) := by
  cases effect with
  | Move id dest => exact followAnchor_muted engine ord id
  | Interact source target action =>
      simp only [WorldEngine.processEffect, apply_ite muted, resolveCombat_muted]
  | _ => rfl

theorem applyEffects_muted (engine : WorldEngine) (ord : Order) :
    (muted engine).applyEffects ord = muted (engine.applyEffects ord) := by
  have all : ∀ (effects : List ActorEffect) (engine : WorldEngine),
      effects.foldl (WorldEngine.processEffect ord) (muted engine) =
        muted (effects.foldl (WorldEngine.processEffect ord) engine) := by
    intro effects
    induction effects with
    | nil => exact fun _ => rfl
    | cons effect rest ih =>
        intro engine
        rw [List.foldl_cons, processEffect_muted, ih, List.foldl_cons]
  exact all _ { engine with
    tickCount := engine.tickCount + 1
    runtime := (engine.runtime.tick ord (engine.tickCount + 1)).2 }

theorem muted_pushSession (engine : WorldEngine) (ord : Order) (clock : SessionId → UInt64) (changed : List ActorState)
    (newlyRemoved : List ActorId) (session : SessionId) :
    muted (WorldEngine.pushSession ord clock changed newlyRemoved engine session) = muted engine := by
  unfold WorldEngine.pushSession
  simp only [apply_ite muted]
  cases engine.sessionQueues.lookup session <;> exact ite_self _

theorem muted_pushSessions (engine : WorldEngine) (ord : Order) (clock : SessionId → UInt64)
    (changed : List ActorState) (newlyRemoved : List ActorId) (sessions : List SessionId) :
    muted (sessions.foldl (WorldEngine.pushSession ord clock changed newlyRemoved) engine) = muted engine := by
  induction sessions generalizing engine with
  | nil => rfl
  | cons first rest ih => rw [List.foldl_cons, ih, muted_pushSession]

theorem muted_pushDeltas (engine : WorldEngine) (ord : Order) (clock : SessionId → UInt64) :
    muted (engine.pushDeltas ord clock) =
      { muted engine with removedThisTick := [], prevSnapshot := engine.runtime.snapshotAll ord } := by
  unfold WorldEngine.pushDeltas
  have same := muted_pushSessions { engine with removedThisTick := [] } ord clock
    (diffStates ord engine.prevSnapshot (engine.runtime.snapshotAll ord)).1
    ((diffStates ord engine.prevSnapshot (engine.runtime.snapshotAll ord)).2 ++ engine.removedThisTick)
    ((engine.interest.sessions ord).map fun entry => entry.1)
  exact congrArg (fun e : WorldEngine => { e with prevSnapshot := engine.runtime.snapshotAll ord }) same

theorem muted_removeSession (engine : WorldEngine) (session : SessionId) (despawn : Bool) :
    muted ((muted engine).removeSession session despawn) = muted (engine.removeSession session despawn) := by
  rw [WorldEngine.removeSession, WorldEngine.removeSession, muted_sessionToActor]
  cases despawn with
  | false => rfl
  | true => cases engine.sessionToActor.lookup session <;> rfl

theorem muted_drainSession (engine : WorldEngine) (session : SessionId) :
    muted (engine.drainSession session).2 = muted engine := by
  unfold WorldEngine.drainSession
  cases engine.sessionQueues.lookup session <;> rfl

theorem muted_call (call : EngineCall) (engine : WorldEngine) :
    muted (call.apply (muted engine)) = muted (call.apply engine) := by
  cases call with
  | spawnActorForSession ord spec session => rfl
  | spawnActorStandalone spec => rfl
  | removeSession session despawn => exact muted_removeSession engine session despawn
  | despawnActor id => rfl
  | send handle msg => rfl
  | applyDirective directive =>
      cases directive with
      | ForceMove id dest =>
          change muted ((muted engine).sendToActor id (.Move dest)).2 = muted (engine.sendToActor id (.Move dest)).2
          rw [sendToActor_muted]
          rfl
      | _ => rfl
  | broadcastWorldEvent message => rfl
  | drainSession session => exact (muted_drainSession _ session).trans (muted_drainSession engine session).symm
  | tick ord clock =>
      change muted (((muted engine).applyEffects ord).pushDeltas ord clock) = _
      rw [applyEffects_muted, muted_pushDeltas]
      exact (muted_pushDeltas (engine.applyEffects ord) ord clock).symm

theorem mem_sessionQueues_call (call : EngineCall)
    (same : ∀ session, session ∈ one.sessionQueues ↔ session ∈ other.sessionQueues) (session : SessionId) :
    session ∈ (call.apply one).sessionQueues ↔ session ∈ (call.apply other).sessionQueues := by
  cases call with
  | spawnActorForSession ord spec opened =>
      change session ∈ one.sessionQueues.insert opened [] ↔ session ∈ other.sessionQueues.insert opened []
      rw [AList.mem_insert, AList.mem_insert, same]
  | removeSession closed despawn =>
      change session ∈ (one.removeSession closed despawn).sessionQueues ↔ _
      rw [removeSession_queues, AList.mem_erase, same, ← AList.mem_erase]
      change _ ↔ session ∈ (other.removeSession closed despawn).sessionQueues
      rw [removeSession_queues]
  | applyDirective directive =>
      have mine := (effected_applyDirective one directive).mem_sessionQueues session
      have yours := (effected_applyDirective other directive).mem_sessionQueues session
      exact mine.trans ((same session).trans yours.symm)
  | broadcastWorldEvent message =>
      have mine := (effected_applyDirective one (.NarrativeEvent message)).mem_sessionQueues session
      have yours := (effected_applyDirective other (.NarrativeEvent message)).mem_sessionQueues session
      exact mine.trans ((same session).trans yours.symm)
  | drainSession drained =>
      exact (mem_drainSession one drained session).trans
        ((same session).trans (mem_drainSession other drained session).symm)
  | tick ord clock =>
      exact (mem_sessionQueues_tick one ord clock session).trans
        ((same session).trans (mem_sessionQueues_tick other ord clock session).symm)
  | _ => exact same session

theorem sameButFrames_refl (engine : WorldEngine) : SameButFrames engine engine := ⟨rfl, fun _ => .rfl⟩

theorem sameButFrames_call (call : EngineCall) (same : SameButFrames one other) :
    SameButFrames (call.apply one) (call.apply other) where
  world := by
    rw [← muted_call call one, same.world, muted_call call other]
  sessions := mem_sessionQueues_call call same.sessions

end LiveWorld.Proof.Engine

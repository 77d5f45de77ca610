import LiveWorld.Proof.Engine.Obedience

/-!
# Nobody vanishes

While nobody is told to shut down, an actor leaves only when it is despawned, and a tick keeps everybody.
-/

namespace LiveWorld.Proof.Engine
open HashTable Spec Proof.Runtime
variable {engine : WorldEngine}

/-- Nobody has been told to shut down. -/
def Awake (engine : WorldEngine) : Prop := Governs Lively (fun _ actor => actor.lifecycle = .Active) [] engine

theorem awake : Governed Lively fun _ actor => actor.lifecycle = .Active where
  born _ _ := rfl
  ticked _ _ _ given := given
  handled _ actor msg running given := by
    rw [handleMessage_lifecycle running actor]
    exact given
  moved _ _ _ _ _ _ given := given

theorem Awake.timeless (inv : Awake engine) (call : EngineCall)
    (sent : ∀ msg ∈ call.sent, msg ≠ .Shutdown) (other : call.isTick = false) : Awake (call.apply engine) :=
  Governs.timeless inv awake (fun _ _ => rfl) (fun _ => sent) other

theorem Awake.tick (inv : Awake engine) (ord : Order) (clock : SessionId → UInt64) :
    Awake (engine.tick ord clock) ∧ ∀ id ∈ engine.runtime.actors, id ∈ (engine.tick ord clock).runtime.actors := by
  have fair : FairCombat Lively engine := by
    intro source target atk victim _ _ _
    exact ⟨fun _ _ => ActorMessage.noConfusion, fun _ _ => ActorMessage.noConfusion⟩
  have after := Governs.tick inv awake fair ord clock
  refine ⟨⟨after.wired, fun id actor found => after.holds id actor found, after.mail⟩, fun id live => ?_⟩
  obtain ⟨actor, found⟩ := HashMap.lookup_of_mem live
  have running : .Shutdown ∉ engine.runtime.inboxes.pending actor.inbox :=
    fun member => inv.mail id actor found _ member rfl
  have alive : (ticked engine.runtime (engine.tickCount + 1) actor).isAlive = true := by
    have active : (ticked engine.runtime (engine.tickCount + 1) actor).lifecycle = .Active := by
      rw [ticked, afterTick_lifecycle, drained, (drainInbox_running running _).1]
      exact inv.holds id actor found
    rw [Actor.isAlive, active]
  have kept : (engine.runtime.tick ord (engine.tickCount + 1)).2.actors.lookup id =
      some (ticked engine.runtime (engine.tickCount + 1) actor) := by
    rw [(tick_spec inv.wired ord _).lookup, found, Option.map_some, Option.filter_some_pos alive]
  rw [(finished_tick engine ord clock).runtime, (effected_applyEffects engine ord).actors]
  exact HashMap.mem_of_lookup kept

end LiveWorld.Proof.Engine

import LiveWorld.Proof.Engine.Sound
import LiveWorld.Spec.Cells

/-!
# Where actors are and where they are filed

A tick sets the cell only along with a move, while a death resets the position alone. So an actor that
agrees with its cell still does after a tick in which it survives, moves, or respawns where it is.
-/

namespace LiveWorld.Proof.Engine
open HashTable Machine Spec Proof.Runtime
variable {cfg : WorldConfig} {w : World} {cellSize : Rat} {actor : Actor} {messages : List ActorMessage}

def Agrees (cellSize : Rat) (actor : Actor) : Prop :=
  actor.state.cell = actor.state.position.toGridCell cellSize

/-! ## One actor in one tick -/

theorem relocate_agrees (effects : List ActorEffect)
    (either : Agrees cellSize actor ∨ ∃ mover dest, ActorEffect.Move mover dest ∈ effects) :
    Agrees cellSize (relocate cellSize actor effects) := by
  induction effects generalizing actor with
  | nil =>
      cases either with
      | inl agrees => exact agrees
      | inr moved =>
          obtain ⟨mover, dest, member⟩ := moved
          cases member
  | cons effect rest ih =>
      have later : (∃ mover dest, ActorEffect.Move mover dest ∈ effect :: rest) →
          (∀ mover dest, effect ≠ .Move mover dest) → ∃ mover dest, ActorEffect.Move mover dest ∈ rest := by
        intro moved other
        obtain ⟨mover, dest, member⟩ := moved
        cases List.mem_cons.mp member with
        | inl now => exact absurd now.symm (other mover dest)
        | inr later => exact ⟨mover, dest, later⟩
      cases effect with
      | Move mover dest =>
          apply ih
          exact .inl rfl
      | _ =>
          apply ih
          exact either.imp_right fun moved => later moved nofun

theorem drainInbox_moves (running : .Shutdown ∉ messages) (moves : pendingMove messages = true) :
    ∃ mover dest, ActorEffect.Move mover dest ∈ (actor.drainInbox messages).2.1 := by
  induction messages generalizing actor with
  | nil => cases moves
  | cons msg rest ih =>
      rw [List.mem_cons, not_or] at running
      have other : msg ≠ .Shutdown := fun same => running.1 same.symm
      simp only [Actor.drainInbox, if_neg other]
      have rest : pendingMove rest = true →
          ∃ mover dest, ActorEffect.Move mover dest ∈ (actor.handleMessage msg).2 ++
            ((actor.handleMessage msg).1.drainInbox rest).2.1 := by
        intro later
        obtain ⟨mover, dest, member⟩ := ih running.2 later
        exact ⟨mover, dest, List.mem_append_right _ member⟩
      cases msg with
      | Move dest => exact ⟨actor.spec.id, dest, List.mem_append_left _ (List.mem_singleton.mpr rfl)⟩
      | _ => exact rest moves

theorem drainInbox_position (actor : Actor) (messages : List ActorMessage) :
    (actor.drainInbox messages).1.state.position = actor.state.position ∨
      (actor.drainInbox messages).1.state.position = actor.spec.position := by
  suffices both : (actor.drainInbox messages).1.spec = actor.spec ∧
      ((actor.drainInbox messages).1.state.position = actor.state.position ∨
        (actor.drainInbox messages).1.state.position = actor.spec.position) from both.2
  refine drainInbox_invariant (P := fun later => later.spec = actor.spec ∧
    (later.state.position = actor.state.position ∨ later.state.position = actor.spec.position)) ?_ ⟨rfl, .inl rfl⟩
    messages
  intro later msg inv
  obtain ⟨spec, position⟩ := inv
  refine ⟨(handleMessage_same later msg).1.spec.trans spec, ?_⟩
  cases msg with
  | TakeDamage amount fromName =>
      simp only [Actor.handleMessage, Actor.takeDamage]
      split_ifs
      · exact .inr (congrArg ActorSpec.position spec)
      · exact position
  | GainXp amount =>
      simp only [Actor.handleMessage, Actor.gainXp]
      split_ifs
      · exact position
      · exact position
  | _ => exact position

theorem drainInbox_survives (actor : Actor) (survives : pendingDamage messages < actor.state.hp.toNat) :
    (actor.drainInbox messages).1.state.position = actor.state.position := by
  induction messages generalizing actor with
  | nil => rfl
  | cons msg rest ih =>
      -- one message leaves enough hit points for the rest, and the position as it was
      have step : pendingDamage rest < (actor.handleMessage msg).1.state.hp.toNat ∧
          (actor.handleMessage msg).1.state.position = actor.state.position := by
        cases msg with
        | TakeDamage amount fromName =>
            simp only [pendingDamage] at survives
            have left := saturatingSub8_toNat actor.state.hp amount
            have alive : saturatingSub8 actor.state.hp amount ≠ 0 := by
              intro dead
              rw [dead, UInt8.toNat_zero] at left
              omega
            simp only [Actor.handleMessage, Actor.takeDamage, if_neg alive, left]
            exact ⟨by omega, trivial⟩
        | GainXp amount =>
            simp only [Actor.handleMessage, Actor.gainXp]
            split_ifs <;> exact ⟨survives, rfl⟩
        | _ => exact ⟨survives, rfl⟩
      simp only [Actor.drainInbox]
      split_ifs
      · exact step.2
      · exact (ih _ step.1).trans step.2

theorem afterTick_agrees (tickNum : UInt64) (running : .Shutdown ∉ messages) (agrees : Agrees cellSize actor)
    (inPlace : pendingDamage messages < actor.state.hp.toNat ∨ pendingMove messages = true ∨
      actor.spec.position.toGridCell cellSize = actor.state.cell) :
    Agrees cellSize (afterTick cellSize tickNum messages actor) := by
  have cell : (drained tickNum messages actor).1.state.cell = actor.state.cell :=
    (drainInbox_same (actor.tick tickNum) messages).2
  apply relocate_agrees
  rcases inPlace with survives | moves | home
  · left
    rw [Agrees, cell, drained, drainInbox_survives (actor.tick tickNum) survives]
    exact agrees
  · right
    exact drainInbox_moves running moves
  · left
    rw [Agrees, cell]
    cases drainInbox_position (actor.tick tickNum) messages with
    | inl same => rw [drained, same]; exact agrees
    | inr born => rw [drained, born]; exact home.symm

/-! ## Whole runs -/

structure Placed (cfg : WorldConfig) (w : World) : Prop extends Sound cfg w.actorIds w.engine where
  agree : ∀ id actor, w.engine.runtime.actors.lookup id = some actor → Agrees cfg.cellSize actor

theorem Placed.spawn (inv : Placed cfg w) (spec : ActorSpec) (id : ActorId) (actor : Actor)
    (found : (w.engine.runtime.spawnActor spec).2.actors.lookup id = some actor) : Agrees cfg.cellSize actor := by
  rw [spawnActor_lookup] at found
  split_ifs at found
  · cases found
    change spec.position.toGridCell w.engine.runtime.grid.cellSize = _
    rw [inv.cellSize]
    rfl
  · exact inv.agree id actor found

theorem Placed.despawn (inv : Placed cfg w) (gone id : ActorId) (actor : Actor)
    (found : (w.engine.runtime.despawnActor gone).2.actors.lookup id = some actor) : Agrees cfg.cellSize actor := by
  rw [despawnActor_lookup] at found
  split_ifs at found
  exact inv.agree id actor found

theorem Placed.removeSession (inv : Placed cfg w) (session : SessionId) (despawn : Bool) (id : ActorId)
    (actor : Actor) (found : (w.engine.removeSession session despawn).runtime.actors.lookup id = some actor) :
    Agrees cfg.cellSize actor := by
  unfold WorldEngine.removeSession at found
  cases despawn with
  | false => exact inv.agree id actor found
  | true =>
      cases owner : w.engine.sessionToActor.lookup session with
      | none =>
          simp only [if_true, owner] at found
          exact inv.agree id actor found
      | some gone =>
          simp only [if_true, owner] at found
          exact inv.despawn gone id actor found

theorem Placed.effected {allowed : ActorMessage → Prop} {after : WorldEngine} (inv : Placed cfg w)
    (effected : Effected allowed w.engine after) (id : ActorId) (actor : Actor)
    (found : after.runtime.actors.lookup id = some actor) : Agrees cfg.cellSize actor := by
  rw [effected.actors] at found
  exact inv.agree id actor found

theorem Placed.tick (inv : Placed cfg w) (inPlace : RespawnsInPlace cfg.cellSize w.engine) (ord : Order)
    (clock : SessionId → UInt64) (id : ActorId) (actor : Actor)
    (found : (w.engine.tick ord clock).runtime.actors.lookup id = some actor) : Agrees cfg.cellSize actor := by
  rw [inv.lookup_tick, Option.map_eq_some_iff] at found
  obtain ⟨old, before, rfl⟩ := found
  rw [nextActor, ticked, inv.cellSize]
  exact afterTick_agrees _ (inv.running _) (inv.agree id old before) (inPlace id old before)

theorem Placed.call (inv : Placed cfg w) (call : EngineCall) (grounded : Grounded cfg.cellSize w call) :
    Placed cfg (w.next call) := by
  refine ⟨inv.toSound.call call grounded.1.1 grounded.1.2, ?_⟩
  change ∀ id actor, (call.apply w.engine).runtime.actors.lookup id = some actor → _
  cases call with
  | spawnActorForSession ord spec session => exact inv.spawn spec
  | spawnActorStandalone spec => exact inv.spawn spec
  | removeSession session despawn => exact inv.removeSession session despawn
  | despawnActor gone => exact inv.despawn gone
  | send handle msg => exact inv.effected (effected_send w.engine handle msg)
  | applyDirective directive => exact inv.effected (effected_applyDirective w.engine directive)
  | broadcastWorldEvent message => exact inv.agree
  | drainSession session =>
      simp only [EngineCall.apply, WorldEngine.drainSession]
      cases w.engine.sessionQueues.lookup session with
      | none => exact inv.agree
      | some queue => exact inv.agree
  | tick ord clock => exact inv.tick (grounded.2 rfl) ord clock

theorem placed_reachable (reachable : WorldReachable cfg (Grounded cfg.cellSize) w) : Placed cfg w := by
  apply reachable.invariant
  · intro w first
    subst first
    exact ⟨sound_new cfg, fun id _ found => absurd (HashMap.mem_of_lookup found) (AList.notMem_empty id)⟩
  · intro w call after inv grounded moved
    cases moved
    exact inv.call call grounded

/-- In a run in which nobody respawns away from its cell, the cells agree in every state. -/
theorem cells_agree (cfg : WorldConfig) (w : World) (reachable : WorldReachable cfg (Grounded cfg.cellSize) w)
    (id : ActorId) (actor : Actor) (live : w.engine.runtime.actors.lookup id = some actor) :
    CellsAgree cfg.cellSize w.engine id actor := by
  have inv := placed_reachable reachable
  have agrees : actor.state.cell = actor.state.position.toGridCell cfg.cellSize := inv.agree id actor live
  refine ⟨agrees, ?_, ?_⟩
  · rw [← agrees]
    exact inv.consistent.filed id actor live
  · intro session cell window
    rw [← agrees]
    cases inv.centred session id cell actor window live with
    | inl here => exact here
    | inr moved =>
        obtain ⟨dest, member⟩ := moved
        cases member

-- an actor is told to walk and killed in one tick: the move is applied last
theorem cells_agree_killed_walking :
    let born := (World.start .default).next (.spawnActorForSession .stored (villager 1 ⟨5, 5⟩) ⟨1⟩)
    let hit := (born.next (.send ⟨⟨1⟩, 0⟩ (.Move ⟨500, 500⟩))).next (.send ⟨⟨1⟩, 0⟩ (.TakeDamage 80 "Knight"))
    ∃ actor, (hit.next (.tick .stored fun _ => 0)).engine.runtime.actors.lookup ⟨1⟩ = some actor ∧
      CellsAgree 10 (hit.next (.tick .stored fun _ => 0)).engine ⟨1⟩ actor := by
  intro born hit
  have inPlace : RespawnsInPlace 10 hit.engine := by
    unfold RespawnsInPlace
    rw [HashMap.forall_lookup_iff]
    decide +kernel
  have reachable : WorldReachable .default (Grounded 10) (hit.next (.tick .stored fun _ => 0)) := by
    refine .step (.step (.step (.step (.start rfl) ?_ rfl) ?_ rfl) ?_ rfl) ?_ rfl
    · exact ⟨⟨fun _ _ => List.not_mem_nil, by decide⟩, fun tick => by cases tick⟩
    · exact ⟨⟨distinct_of_no_spawn _ rfl, by decide⟩, fun tick => by cases tick⟩
    · exact ⟨⟨distinct_of_no_spawn _ rfl, by decide⟩, fun tick => by cases tick⟩
    · exact ⟨⟨distinct_of_no_spawn _ rfl, by decide⟩, fun _ => inPlace⟩
  obtain ⟨actor, live⟩ : ∃ actor, (hit.next (.tick .stored fun _ => 0)).engine.runtime.actors.lookup ⟨1⟩ =
      some actor := Option.isSome_iff_exists.mp (by decide +kernel)
  exact ⟨actor, live, cells_agree .default _ reachable ⟨1⟩ actor live⟩

/-! ## A respawn somewhere else -/

-- an actor is born at (5, 5), walks to (500, 500) and is dealt all its hit points there
def struckAway : World :=
  let born := (World.start .default).next (.spawnActorForSession .stored (villager 1 ⟨5, 5⟩) ⟨1⟩)
  let walked := (born.next (.send ⟨⟨1⟩, 0⟩ (.Move ⟨500, 500⟩))).next (.tick .stored fun _ => 0)
  walked.next (.send ⟨⟨1⟩, 0⟩ (.TakeDamage 80 "Knight"))

theorem running_struckAway : WorldReachable .default Running struckAway := by
  refine .step (.step (.step (.step (.start rfl) ?_ rfl) ?_ rfl) ?_ rfl) ?_ rfl
  · exact ⟨fun _ _ => List.not_mem_nil, by decide⟩
  · exact ⟨distinct_of_no_spawn _ rfl, by decide⟩
  · exact ⟨distinct_of_no_spawn _ rfl, by decide⟩
  · exact ⟨distinct_of_no_spawn _ rfl, by decide⟩

theorem respawn_leaves_cell :
    ¬∀ w, WorldReachable .default Running w → ∀ ord clock id actor,
      (w.engine.tick ord clock).runtime.actors.lookup id = some actor →
      CellsAgree 10 (w.engine.tick ord clock) id actor := by
  intro claim
  have differ : ∃ entry ∈ (struckAway.engine.tick .stored fun _ => 0).runtime.actors.entries,
      entry.2.state.cell ≠ entry.2.state.position.toGridCell 10 := by decide +kernel
  obtain ⟨entry, member, differ⟩ := differ
  exact differ (claim struckAway running_struckAway .stored (fun _ => 0) entry.1 entry.2
    (HashMap.mem_entries_iff.mp member)).state

end LiveWorld.Proof.Engine

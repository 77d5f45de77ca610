import LiveWorld.Proof.Runtime.Grid

/-!
# One actor in one tick

`afterTick` is the actor that a tick leaves behind, computed from the actor and its inbox alone: the
grid only records where the moves lead.
-/

namespace LiveWorld.Proof.Runtime
open HashTable Spec
variable {grid : SpatialGrid} {actor : Actor} {messages : List ActorMessage}

/-! ## Draining the inbox -/

theorem drainInbox_invariant {P : Actor → Prop}
    (kept : ∀ actor msg, P actor → P (actor.handleMessage msg).1)
    (start : P actor) (messages : List ActorMessage) : P (actor.drainInbox messages).1 := by
  induction messages generalizing actor with
  | nil => exact start
  | cons msg rest ih =>
      simp only [Actor.drainInbox]
      split_ifs
      · exact kept actor msg start
      · exact ih (kept actor msg start)

theorem drainInbox_effects {P : Actor → Prop} {Q : ActorEffect → Prop}
    (kept : ∀ actor msg, P actor → P (actor.handleMessage msg).1)
    (emitted : ∀ actor msg, P actor → ∀ effect ∈ (actor.handleMessage msg).2, Q effect)
    (start : P actor) (messages : List ActorMessage) : ∀ effect ∈ (actor.drainInbox messages).2.1, Q effect := by
  induction messages generalizing actor with
  | nil => simp [Actor.drainInbox]
  | cons msg rest ih =>
      simp only [Actor.drainInbox]
      split_ifs
      · exact emitted actor msg start
      · intro effect member
        rcases List.mem_append.mp member with now | later
        · exact emitted actor msg start effect now
        · exact ih (kept actor msg start) effect later

structure SameActor (before after : Actor) : Prop where
  spec : after.spec = before.spec
  inbox : after.inbox = before.inbox
  id : after.state.id = before.state.id
  tick : after.state.tick = before.state.tick
  maxHp : after.state.maxHp = before.state.maxHp

theorem SameActor.refl (actor : Actor) : SameActor actor actor := ⟨rfl, rfl, rfl, rfl, rfl⟩

theorem SameActor.trans {first second third : Actor} (one : SameActor first second)
    (two : SameActor second third) : SameActor first third :=
  ⟨two.spec.trans one.spec, two.inbox.trans one.inbox, two.id.trans one.id, two.tick.trans one.tick,
    two.maxHp.trans one.maxHp⟩

theorem handleMessage_same (actor : Actor) (msg : ActorMessage) :
    SameActor actor (actor.handleMessage msg).1 ∧ (actor.handleMessage msg).1.state.cell = actor.state.cell := by
  cases msg with
  | Move dest => exact ⟨.refl actor, rfl⟩
  | Speak text => exact ⟨⟨rfl, rfl, rfl, rfl, rfl⟩, rfl⟩
  | Interact target action => exact ⟨.refl actor, rfl⟩
  | TakeDamage amount fromName =>
      simp only [Actor.handleMessage, Actor.takeDamage]
      split_ifs <;> exact ⟨⟨rfl, rfl, rfl, rfl, rfl⟩, rfl⟩
  | GainXp amount =>
      simp only [Actor.handleMessage, Actor.gainXp]
      split_ifs <;> exact ⟨⟨rfl, rfl, rfl, rfl, rfl⟩, rfl⟩
  | Shutdown => exact ⟨⟨rfl, rfl, rfl, rfl, rfl⟩, rfl⟩

theorem drainInbox_same (actor : Actor) (messages : List ActorMessage) :
    SameActor actor (actor.drainInbox messages).1 ∧
      (actor.drainInbox messages).1.state.cell = actor.state.cell := by
  refine drainInbox_invariant
    (P := fun later => SameActor actor later ∧ later.state.cell = actor.state.cell) ?_ ⟨.refl actor, rfl⟩ messages
  intro later msg given
  obtain ⟨same, cell⟩ := given
  obtain ⟨next, cell'⟩ := handleMessage_same later msg
  exact ⟨same.trans next, cell'.trans cell⟩

theorem drainInbox_left (actor : Actor) (messages : List ActorMessage) :
    ∀ msg ∈ (actor.drainInbox messages).2.2, msg ∈ messages := by
  induction messages generalizing actor with
  | nil => exact fun _ member => member
  | cons first rest ih =>
      intro msg member
      simp only [Actor.drainInbox] at member
      split_ifs at member
      · exact List.mem_cons_of_mem _ member
      · exact List.mem_cons_of_mem _ (ih _ msg member)

theorem handleMessage_lifecycle {msg : ActorMessage} (other : msg ≠ .Shutdown) (actor : Actor) :
    (actor.handleMessage msg).1.lifecycle = actor.lifecycle := by
  cases msg with
  | TakeDamage amount fromName =>
      simp only [Actor.handleMessage, Actor.takeDamage]
      split_ifs <;> rfl
  | GainXp amount =>
      simp only [Actor.handleMessage, Actor.gainXp]
      split_ifs <;> rfl
  | Shutdown => exact absurd rfl other
  | _ => rfl

theorem drainInbox_running (running : .Shutdown ∉ messages) (actor : Actor) :
    (actor.drainInbox messages).1.lifecycle = actor.lifecycle ∧ (actor.drainInbox messages).2.2 = [] := by
  induction messages generalizing actor with
  | nil => exact ⟨rfl, rfl⟩
  | cons msg rest ih =>
      rw [List.mem_cons, not_or] at running
      obtain ⟨lifecycle, left⟩ := ih running.2 (actor.handleMessage msg).1
      have other : msg ≠ .Shutdown := fun same => running.1 same.symm
      simp only [Actor.drainInbox, if_neg other]
      exact ⟨lifecycle.trans (handleMessage_lifecycle other actor), left⟩

def OwnMove (id : ActorId) : ActorEffect → Prop
  | .Move mover _ => mover = id
  | _ => True

theorem drainInbox_ownMove (actor : Actor) (messages : List ActorMessage) :
    ∀ effect ∈ (actor.drainInbox messages).2.1, OwnMove actor.spec.id effect := by
  refine drainInbox_effects (P := fun later => later.spec = actor.spec) ?_ ?_ rfl messages
  · intro later msg same
    exact (handleMessage_same later msg).1.spec.trans same
  · intro later msg same effect member
    cases msg with
    | Move dest =>
        rw [Actor.handleMessage, List.mem_singleton] at member
        rw [member, ← same]
        rfl
    | Speak text =>
        rw [Actor.handleMessage, List.mem_singleton] at member
        rw [member]
        trivial
    | Interact target action =>
        rw [Actor.handleMessage, List.mem_singleton] at member
        rw [member]
        trivial
    | TakeDamage amount fromName =>
        simp only [Actor.handleMessage, Actor.takeDamage] at member
        split_ifs at member <;> rw [List.mem_singleton] at member <;> rw [member] <;> trivial
    | GainXp amount =>
        simp only [Actor.handleMessage, Actor.gainXp] at member
        split_ifs at member
        · rw [List.mem_singleton] at member
          rw [member]
          trivial
        · cases member
    | Shutdown => cases member

theorem mem_drainInbox_move {mover : ActorId} {dest : Position}
    (member : .Move mover dest ∈ (actor.drainInbox messages).2.1) : .Move dest ∈ messages := by
  induction messages generalizing actor with
  | nil => cases member
  | cons msg rest ih =>
      have now : .Move mover dest ∈ (actor.handleMessage msg).2 → .Move dest ∈ msg :: rest := by
        intro emitted
        cases msg with
        | Move there =>
            simp only [Actor.handleMessage, List.mem_singleton, ActorEffect.Move.injEq] at emitted
            rw [emitted.2]
            exact List.mem_cons_self
        | TakeDamage amount fromName =>
            simp only [Actor.handleMessage, Actor.takeDamage] at emitted
            split_ifs at emitted <;> simp at emitted
        | GainXp amount =>
            simp only [Actor.handleMessage, Actor.gainXp] at emitted
            split_ifs at emitted <;> simp at emitted
        | _ => simp [Actor.handleMessage] at emitted
      simp only [Actor.drainInbox] at member
      split_ifs at member
      · exact now member
      · rcases List.mem_append.mp member with first | later
        · exact now first
        · exact List.mem_cons_of_mem _ (ih later)

/-! ## Applying the moves -/

def relocate (cellSize : Rat) (actor : Actor) (effects : List ActorEffect) : Actor :=
  effects.foldl (fun actor effect =>
    match effect with
    | .Move _ dest => actor.applyMove dest (dest.toGridCell cellSize)
    | _ => actor) actor

theorem relocate_same (cellSize : Rat) (actor : Actor) (effects : List ActorEffect) :
    SameActor actor (relocate cellSize actor effects) := by
  induction effects generalizing actor with
  | nil => exact .refl actor
  | cons effect rest ih =>
      cases effect with
      | Move mover dest =>
          refine SameActor.trans ?_ (ih (actor.applyMove dest (dest.toGridCell cellSize)))
          exact ⟨rfl, rfl, rfl, rfl, rfl⟩
      | _ => exact ih actor

theorem relocate_lifecycle (cellSize : Rat) (actor : Actor) (effects : List ActorEffect) :
    (relocate cellSize actor effects).lifecycle = actor.lifecycle := by
  induction effects generalizing actor with
  | nil => rfl
  | cons effect rest ih =>
      cases effect with
      | Move mover dest => exact ih _
      | _ => exact ih actor

theorem relocate_cell (cellSize : Rat) (actor : Actor) (effects : List ActorEffect) :
    (relocate cellSize actor effects).state.cell = actor.state.cell ∨
      ∃ mover dest, ActorEffect.Move mover dest ∈ effects ∧
        (relocate cellSize actor effects).state.cell = dest.toGridCell cellSize := by
  induction effects generalizing actor with
  | nil => exact .inl rfl
  | cons effect rest ih =>
      have later : ∀ actor', (∃ mover dest, ActorEffect.Move mover dest ∈ rest ∧
          (relocate cellSize actor' rest).state.cell = dest.toGridCell cellSize) →
          ∃ mover dest, ActorEffect.Move mover dest ∈ effect :: rest ∧
            (relocate cellSize actor' rest).state.cell = dest.toGridCell cellSize :=
        fun _ ⟨mover, dest, member, cell⟩ => ⟨mover, dest, List.mem_cons_of_mem _ member, cell⟩
      cases effect with
      | Move mover dest =>
          rcases ih (actor.applyMove dest (dest.toGridCell cellSize)) with here | moved
          · exact .inr ⟨mover, dest, List.mem_cons_self, here⟩
          · exact .inr (later _ moved)
      | _ => exact (ih actor).imp_right (later actor)

theorem moveActor_cell (grid : SpatialGrid) (id : ActorId) (cell : GridCell) (pos : Position) :
    (grid.moveActor id cell pos).1 = pos.toGridCell grid.cellSize := by
  unfold SpatialGrid.moveActor SpatialGrid.cellOf
  simp only
  split_ifs <;> rfl

theorem moveActor_cellSize (grid : SpatialGrid) (id : ActorId) (cell : GridCell) (pos : Position) :
    (grid.moveActor id cell pos).2.cellSize = grid.cellSize := by
  unfold SpatialGrid.moveActor
  simp only
  split_ifs
  · rfl
  · exact cellSize_remove

theorem applyMoves_spec (grid : SpatialGrid) (actor : Actor) (effects : List ActorEffect) :
    (ActorRuntime.applyMoves grid actor effects).2 = relocate grid.cellSize actor effects ∧
      (ActorRuntime.applyMoves grid actor effects).1.cellSize = grid.cellSize := by
  induction effects generalizing grid actor with
  | nil => exact ⟨rfl, rfl⟩
  | cons effect rest ih =>
      cases effect with
      | Move mover dest =>
          have later := ih (grid.moveActor mover actor.state.cell dest).2
            (actor.applyMove dest (dest.toGridCell grid.cellSize))
          rw [moveActor_cellSize] at later
          simp only [ActorRuntime.applyMoves, List.foldl_cons, relocate, moveActor_cell] at later ⊢
          exact later
      | _ => exact ih grid actor

theorem applyMoves_refiled (effects : List ActorEffect) (id : ActorId)
    (own : ∀ effect ∈ effects, OwnMove id effect)
    (here : ∀ cell, Filed grid cell id ↔ cell = actor.state.cell) :
    Refiled grid (ActorRuntime.applyMoves grid actor effects).1 id
      (relocate grid.cellSize actor effects).state.cell := by
  induction effects generalizing grid actor with
  | nil => exact refiled_refl here
  | cons effect rest ih =>
      have later : ∀ effect ∈ rest, OwnMove id effect := fun e member => own e (List.mem_cons_of_mem _ member)
      cases effect with
      | Move mover dest =>
          obtain rfl : mover = id := own _ List.mem_cons_self
          have moved := refiled_moveActor here dest
          rw [moveActor_cell] at moved
          have there : ∀ cell, Filed (grid.moveActor mover actor.state.cell dest).2 cell mover ↔
              cell = (actor.applyMove dest (dest.toGridCell grid.cellSize)).state.cell := by
            intro cell
            rw [moved.filed, if_pos rfl]
            rfl
          have refiled := ih later there
          rw [moved.cellSize] at refiled
          simp only [ActorRuntime.applyMoves, List.foldl_cons, relocate, moveActor_cell] at refiled ⊢
          exact refiled_trans moved refiled
      | _ => exact ih later here

/-! ## The whole tick of one actor -/

def drained (tickNum : UInt64) (messages : List ActorMessage) (actor : Actor) :
    Actor × List ActorEffect × List ActorMessage :=
  (actor.tick tickNum).drainInbox messages

def afterTick (cellSize : Rat) (tickNum : UInt64) (messages : List ActorMessage) (actor : Actor) : Actor :=
  relocate cellSize (drained tickNum messages actor).1 (drained tickNum messages actor).2.1

theorem afterTick_same (cellSize : Rat) (tickNum : UInt64) (messages : List ActorMessage) (actor : Actor) :
    SameActor (actor.tick tickNum) (afterTick cellSize tickNum messages actor) :=
  (drainInbox_same (actor.tick tickNum) messages).1.trans (relocate_same _ _ _)

theorem afterTick_lifecycle (cellSize : Rat) (tickNum : UInt64) (messages : List ActorMessage) (actor : Actor) :
    (afterTick cellSize tickNum messages actor).lifecycle = (drained tickNum messages actor).1.lifecycle :=
  relocate_lifecycle _ _ _

theorem afterTick_cell (cellSize : Rat) (tickNum : UInt64) (messages : List ActorMessage) (actor : Actor) :
    (afterTick cellSize tickNum messages actor).state.cell = actor.state.cell ∨
      ∃ dest, .Move actor.spec.id dest ∈ (drained tickNum messages actor).2.1 ∧ .Move dest ∈ messages ∧
        (afterTick cellSize tickNum messages actor).state.cell = dest.toGridCell cellSize := by
  rcases relocate_cell cellSize (drained tickNum messages actor).1 (drained tickNum messages actor).2.1 with
    here | ⟨mover, dest, member, cell⟩
  · exact .inl (here.trans (drainInbox_same (actor.tick tickNum) messages).2)
  · obtain rfl : mover = actor.spec.id := drainInbox_ownMove (actor.tick tickNum) messages _ member
    exact .inr ⟨dest, member, mem_drainInbox_move member, cell⟩

theorem applyMoves_drained (grid : SpatialGrid) (tickNum : UInt64) (messages : List ActorMessage) (actor : Actor) :
    (ActorRuntime.applyMoves grid (drained tickNum messages actor).1 (drained tickNum messages actor).2.1).2 =
      afterTick grid.cellSize tickNum messages actor :=
  (applyMoves_spec grid _ _).1

theorem refiled_drained (tickNum : UInt64) (messages : List ActorMessage)
    (here : ∀ cell, Filed grid cell actor.spec.id ↔ cell = actor.state.cell) :
    Refiled grid
      (ActorRuntime.applyMoves grid (drained tickNum messages actor).1 (drained tickNum messages actor).2.1).1
      actor.spec.id (afterTick grid.cellSize tickNum messages actor).state.cell := by
  have cell : (drained tickNum messages actor).1.state.cell = actor.state.cell :=
    (drainInbox_same (actor.tick tickNum) messages).2
  exact applyMoves_refiled _ _ (drainInbox_ownMove (actor.tick tickNum) messages) (by rw [cell]; exact here)

end LiveWorld.Proof.Runtime

import LiveWorld.Proof.Runtime.Bookkeeping
import LiveWorld.Spec.Batching

/-!
# Draining in one tick or in several

Everything but the moves takes effect while the inbox is drained. The moves are applied afterwards, so within one tick
they come after every death.
-/

namespace LiveWorld.Proof.Runtime
open HashTable Machine Spec
variable {actor : Actor} {messages early late : List ActorMessage} {cellSize : Rat} {tickNum : UInt64}

/-! ## Everything but the place -/

structure SameVitals (one two : Actor) : Prop where
  hp : one.state.hp = two.state.hp
  maxHp : one.state.maxHp = two.state.maxHp
  xp : one.state.xp = two.state.xp
  level : one.state.level = two.state.level
  lastUtterance : one.state.lastUtterance = two.state.lastUtterance

theorem SameVitals.refl (actor : Actor) : SameVitals actor actor := ⟨rfl, rfl, rfl, rfl, rfl⟩

theorem SameVitals.trans {one two three : Actor} (first : SameVitals one two) (second : SameVitals two three) :
    SameVitals one three :=
  ⟨first.hp.trans second.hp, first.maxHp.trans second.maxHp, first.xp.trans second.xp, first.level.trans second.level,
    first.lastUtterance.trans second.lastUtterance⟩

theorem SameVitals.handleMessage {one two : Actor} (same : SameVitals one two) (msg : ActorMessage) :
    SameVitals (one.handleMessage msg).1 (two.handleMessage msg).1 := by
  cases msg with
  | Move dest => exact same
  | Speak text => exact ⟨same.hp, same.maxHp, same.xp, same.level, rfl⟩
  | Interact target action => exact same
  | TakeDamage amount fromName =>
      simp only [Actor.handleMessage, Actor.takeDamage, same.hp]
      split_ifs
      · exact ⟨same.maxHp, same.maxHp, same.xp, same.level, same.lastUtterance⟩
      · exact ⟨rfl, same.maxHp, same.xp, same.level, same.lastUtterance⟩
  | GainXp amount =>
      simp only [Actor.handleMessage, Actor.gainXp, same.xp, same.level]
      split_ifs
      · exact ⟨same.hp, same.maxHp, rfl, rfl, same.lastUtterance⟩
      · exact ⟨same.hp, same.maxHp, rfl, rfl, same.lastUtterance⟩
  | Shutdown => exact ⟨same.hp, same.maxHp, same.xp, same.level, same.lastUtterance⟩

/-- The actor after `messages`, one after the other. -/
def handleAll (actor : Actor) (messages : List ActorMessage) : Actor :=
  messages.foldl (fun actor msg => (actor.handleMessage msg).1) actor

theorem drainInbox_handleAll (running : .Shutdown ∉ messages) (actor : Actor) :
    (actor.drainInbox messages).1 = handleAll actor messages := by
  induction messages generalizing actor with
  | nil => rfl
  | cons msg rest ih =>
      rw [List.mem_cons, not_or] at running
      have other : msg ≠ .Shutdown := fun same => running.1 same.symm
      simp only [Actor.drainInbox, if_neg other]
      exact ih running.2 _

theorem SameVitals.handleAll {one two : Actor} (same : SameVitals one two) (messages : List ActorMessage) :
    SameVitals (handleAll one messages) (handleAll two messages) := by
  induction messages generalizing one two with
  | nil => exact same
  | cons msg rest ih => exact ih (same.handleMessage msg)

theorem sameVitals_relocate (cellSize : Rat) (actor : Actor) (effects : List ActorEffect) :
    SameVitals (relocate cellSize actor effects) actor := by
  induction effects generalizing actor with
  | nil => exact .refl actor
  | cons effect rest ih =>
      cases effect with
      | Move mover dest => exact (ih _).trans ⟨rfl, rfl, rfl, rfl, rfl⟩
      | _ => exact ih actor

theorem sameVitals_afterTick (cellSize : Rat) (tickNum : UInt64) (running : .Shutdown ∉ messages) (actor : Actor) :
    SameVitals (afterTick cellSize tickNum messages actor) (handleAll actor messages) := by
  refine (sameVitals_relocate cellSize _ _).trans ?_
  rw [drained, drainInbox_handleAll running]
  have ticked : SameVitals (actor.tick tickNum) actor := ⟨rfl, rfl, rfl, rfl, rfl⟩
  exact ticked.handleAll messages

/-! ## The place -/

def place (actor : Actor) : Position × GridCell := (actor.state.position, actor.state.cell)

/-- Where the moves in `messages` lead from a place. -/
def route (cellSize : Rat) : Position × GridCell → List ActorMessage → Position × GridCell
  | here, [] => here
  | _, .Move dest :: rest => route cellSize (dest, dest.toGridCell cellSize) rest
  | here, _ :: rest => route cellSize here rest

theorem place_relocate (cellSize : Rat) (running : .Shutdown ∉ messages) (actor drainer : Actor) :
    place (relocate cellSize actor (drainer.drainInbox messages).2.1) = route cellSize (place actor) messages := by
  induction messages generalizing actor drainer with
  | nil => rfl
  | cons msg rest ih =>
      rw [List.mem_cons, not_or] at running
      have other : msg ≠ .Shutdown := fun same => running.1 same.symm
      simp only [Actor.drainInbox, if_neg other, relocate, List.foldl_append]
      refine (ih running.2 _ _).trans ?_
      cases msg with
      | TakeDamage amount fromName =>
          simp only [Actor.handleMessage, Actor.takeDamage]
          split_ifs <;> rfl
      | GainXp amount =>
          simp only [Actor.handleMessage, Actor.gainXp]
          split_ifs <;> rfl
      | _ => rfl

theorem hpAfter_append (maxHp hp : UInt8) (early late : List ActorMessage) :
    hpAfter maxHp hp (early ++ late) = hpAfter maxHp (hpAfter maxHp hp early) late := by
  induction early generalizing hp with
  | nil => rfl
  | cons msg rest ih => cases msg <;> exact ih _

theorem dies_append (maxHp hp : UInt8) (early late : List ActorMessage) :
    dies hp (early ++ late) = (dies hp early || dies (hpAfter maxHp hp early) late) := by
  induction early generalizing hp with
  | nil => rfl
  | cons msg rest ih =>
      cases msg with
      | TakeDamage amount fromName =>
          simp only [List.cons_append, dies, hpAfter]
          split_ifs
          · rfl
          · exact ih _
      | _ => exact ih _

theorem handleAll_hp (actor : Actor) (messages : List ActorMessage) :
    (handleAll actor messages).state.hp = hpAfter actor.state.maxHp actor.state.hp messages := by
  induction messages generalizing actor with
  | nil => rfl
  | cons msg rest ih =>
      refine (ih (actor.handleMessage msg).1).trans ?_
      rw [(handleMessage_same actor msg).1.maxHp]
      cases msg with
      | TakeDamage amount fromName =>
          simp only [Actor.handleMessage, Actor.takeDamage, hpAfter]
          split_ifs <;> rfl
      | GainXp amount =>
          simp only [Actor.handleMessage, Actor.gainXp, hpAfter]
          split_ifs <;> rfl
      | _ => rfl

theorem handleAll_same (actor : Actor) (messages : List ActorMessage) :
    SameActor actor (handleAll actor messages) ∧ (handleAll actor messages).state.cell = actor.state.cell := by
  induction messages generalizing actor with
  | nil => exact ⟨.refl actor, rfl⟩
  | cons msg rest ih =>
      obtain ⟨one, cell⟩ := handleMessage_same actor msg
      obtain ⟨later, cell'⟩ := ih (actor.handleMessage msg).1
      exact ⟨one.trans later, cell'.trans cell⟩

theorem gainXp_frame (actor : Actor) (amount : UInt32) :
    (actor.gainXp amount).1.state.hp = actor.state.hp ∧
      (actor.gainXp amount).1.state.position = actor.state.position := by
  simp only [Actor.gainXp]
  split_ifs <;> exact ⟨rfl, rfl⟩

theorem handleAll_position (actor : Actor) (messages : List ActorMessage) :
    (handleAll actor messages).state.position =
      if dies actor.state.hp messages then actor.spec.position else actor.state.position := by
  induction messages generalizing actor with
  | nil => rfl
  | cons msg rest ih =>
      refine (ih (actor.handleMessage msg).1).trans ?_
      rw [(handleMessage_same actor msg).1.spec]
      cases msg with
      | TakeDamage amount fromName =>
          simp only [Actor.handleMessage, Actor.takeDamage, dies]
          by_cases dead : saturatingSub8 actor.state.hp amount = 0
          · simp only [if_pos dead, ite_self, if_true]
          · simp only [if_neg dead]
      | GainXp amount =>
          simp only [Actor.handleMessage, dies, gainXp_frame]
          rfl
      | _ => rfl

theorem place_afterTick (cellSize : Rat) (tickNum : UInt64) (running : .Shutdown ∉ messages) (actor : Actor) :
    place (afterTick cellSize tickNum messages actor) =
      route cellSize (if dies actor.state.hp messages then actor.spec.position else actor.state.position,
        actor.state.cell) messages := by
  refine (place_relocate cellSize running _ _).trans ?_
  rw [drained, drainInbox_handleAll running, place, handleAll_position, (handleAll_same _ messages).2]
  rfl

theorem route_append (here : Position × GridCell) (early late : List ActorMessage) :
    route cellSize here (early ++ late) = route cellSize (route cellSize here early) late := by
  induction early generalizing here with
  | nil => rfl
  | cons msg rest ih => cases msg <;> exact ih _

theorem route_still (still : pendingMove messages = false) (here : Position × GridCell) :
    route cellSize here messages = here := by
  induction messages with
  | nil => rfl
  | cons msg rest ih =>
      cases msg with
      | Move dest => cases still
      | _ => exact ih still

theorem route_moves (moves : pendingMove messages = true) (here there : Position × GridCell) :
    route cellSize here messages = route cellSize there messages := by
  induction messages with
  | nil => cases moves
  | cons msg rest ih =>
      cases msg with
      | Move dest => rfl
      | _ => exact ih moves

theorem pendingMove_append (early late : List ActorMessage) :
    pendingMove (early ++ late) = (pendingMove early || pendingMove late) := by
  induction early with
  | nil => rfl
  | cons msg rest ih =>
      cases msg with
      | Move dest => rfl
      | _ => exact ih

theorem last_move (moves : pendingMove messages = true) :
    ∃ before dest after, messages = before ++ .Move dest :: after ∧ pendingMove after = false := by
  induction messages with
  | nil => cases moves
  | cons msg rest ih =>
      by_cases later : pendingMove rest = true
      · obtain ⟨before, dest, after, rfl, still⟩ := ih later
        exact ⟨msg :: before, dest, after, rfl, still⟩
      · cases msg with
        | Move dest => exact ⟨[], dest, rest, rfl, by simpa using later⟩
        | _ => exact absurd moves later

-- a death changes the position alone
theorem route_cell (messages : List ActorMessage) (here there : Position) (cell : GridCell) :
    (route cellSize (here, cell) messages).2 = (route cellSize (there, cell) messages).2 := by
  induction messages with
  | nil => rfl
  | cons msg rest ih =>
      cases msg with
      | Move dest => rfl
      | _ => exact ih

/-! ## One batch after another -/

abbrev drainActor (cellSize : Rat) (actor : Actor) (batch : Batch) : Actor :=
  afterTick cellSize batch.tickNum batch.messages actor

/-- The position after one tick. -/
def wholePosition (cellSize : Rat) (actor : Actor) (messages : List ActorMessage) : Position :=
  (route cellSize (if dies actor.state.hp messages then actor.spec.position else actor.state.position,
    actor.state.cell) messages).1

def KilledAfterMove (actor : Actor) (messages : List ActorMessage) : Prop :=
  ∃ before dest after, messages = before ++ .Move dest :: after ∧ pendingMove after = false ∧
    dies (hpAfter actor.state.maxHp actor.state.hp before) after = true

/-- What one batch does, apart from the effects. -/
structure Drained (cellSize : Rat) (messages : List ActorMessage) (before after : Actor) : Prop where
  spec : after.spec = before.spec
  maxHp : after.state.maxHp = before.state.maxHp
  vitals : SameVitals after (handleAll before messages)
  hp : after.state.hp = hpAfter before.state.maxHp before.state.hp messages
  position : after.state.position = wholePosition cellSize before messages
  cell : after.state.cell = (route cellSize (place before) messages).2

theorem drained_afterTick (running : .Shutdown ∉ messages) (actor : Actor) :
    Drained cellSize messages actor (afterTick cellSize tickNum messages actor) := by
  have same := afterTick_same cellSize tickNum messages actor
  have vitals := sameVitals_afterTick cellSize tickNum running actor
  have place := place_afterTick cellSize tickNum running actor
  refine ⟨same.spec, same.maxHp, vitals, vitals.hp.trans (handleAll_hp actor messages), congrArg Prod.fst place, ?_⟩
  exact (congrArg Prod.snd place).trans (route_cell messages _ _ _)

theorem KilledAfterMove.append {before after : Actor} (drained : Drained cellSize early before after)
    (killed : KilledAfterMove after late) : KilledAfterMove before (early ++ late) := by
  obtain ⟨first, dest, rest, rfl, still, dead⟩ := killed
  refine ⟨early ++ first, dest, rest, by simp, still, ?_⟩
  rw [hpAfter_append, ← drained.hp, ← drained.maxHp]
  exact dead

-- the last move of `early` is the last one altogether
theorem killed_later (maxHp hp : UInt8) (moves : pendingMove early = true) (still : pendingMove late = false)
    (dead : dies (hpAfter maxHp hp early) late = true) :
    ∃ before dest after, early ++ late = before ++ .Move dest :: after ∧ pendingMove after = false ∧
      dies (hpAfter maxHp hp before) after = true := by
  obtain ⟨before, dest, after, rfl, rest⟩ := last_move moves
  refine ⟨before, dest, after ++ late, by simp, ?_, ?_⟩
  · rw [pendingMove_append, rest, still]
    rfl
  · rw [hpAfter_append] at dead
    rw [dies_append maxHp, Bool.or_eq_true]
    exact .inr dead

/-- Two ticks lead where one would, or back to the birth place because of a death after the last move. -/
theorem wholePosition_append {before after : Actor} (drained : Drained cellSize early before after) :
    wholePosition cellSize after late = wholePosition cellSize before (early ++ late) ∨
      (wholePosition cellSize after late = before.spec.position ∧ KilledAfterMove before (early ++ late)) := by
  have here : (after.state.position, after.state.cell) = route cellSize
      (if dies before.state.hp early then before.spec.position else before.state.position, before.state.cell) early :=
    Prod.ext drained.position (drained.cell.trans (route_cell early _ _ _))
  have deaths := dies_append before.state.maxHp before.state.hp early late
  rw [← drained.hp] at deaths
  unfold wholePosition
  rw [route_append, drained.spec]
  by_cases moves : pendingMove late = true
  · left
    rw [route_moves moves]
  · rw [Bool.not_eq_true] at moves
    rw [route_still moves, route_still moves]
    by_cases dead : dies after.state.hp late = true
    · rw [if_pos dead]
      by_cases moved : pendingMove early = true
      · right
        rw [drained.hp] at dead
        exact ⟨rfl, killed_later _ _ moved moves dead⟩
      · left
        rw [Bool.not_eq_true] at moved
        rw [route_still moved, deaths, dead, Bool.or_true, if_pos rfl]
    · left
      rw [if_neg dead]
      rw [Bool.not_eq_true] at dead
      rw [deaths, dead, Bool.or_false]
      exact congrArg Prod.fst here

structure DrainedAll (cellSize : Rat) (messages : List ActorMessage) (before after : Actor) : Prop where
  vitals : SameVitals after (handleAll before messages)
  cell : after.state.cell = (route cellSize (place before) messages).2
  position : after.state.position = wholePosition cellSize before messages ∨
    (after.state.position = before.spec.position ∧ KilledAfterMove before messages)

theorem DrainedAll.cons {first middle last : Actor} (drained : Drained cellSize early first middle)
    (rest : DrainedAll cellSize late middle last) : DrainedAll cellSize (early ++ late) first last := by
  refine ⟨?_, ?_, ?_⟩
  · refine rest.vitals.trans ?_
    rw [handleAll, handleAll, List.foldl_append]
    exact drained.vitals.handleAll late
  · rw [rest.cell, route_append]
    refine (route_cell late _ (route cellSize (place first) early).1 _).trans ?_
    rw [drained.cell]
  · rcases rest.position with whole | ⟨born, killed⟩
    · rw [whole]
      exact wholePosition_append drained
    · exact .inr ⟨born.trans (congrArg ActorSpec.position drained.spec), killed.append drained⟩

theorem drainedAll_batches (batches : List Batch) (actor : Actor)
    (running : .Shutdown ∉ (batches.map Batch.messages).flatten) :
    DrainedAll cellSize (batches.map Batch.messages).flatten actor (batches.foldl (drainActor cellSize) actor) := by
  induction batches generalizing actor with
  | nil => exact ⟨.refl actor, rfl, .inl rfl⟩
  | cons batch rest ih =>
      rw [List.map_cons, List.flatten_cons, List.mem_append, not_or] at running
      exact DrainedAll.cons (drained_afterTick running.1 actor) (ih _ running.2)

/-! ## In the runtime -/

theorem drainBatch_spec {rt : ActorRuntime} (wired : Wired rt) {id : ActorId}
    (found : rt.actors.lookup id = some actor) (alive : actor.isAlive = true) (batch : Batch)
    (running : .Shutdown ∉ batch.messages) :
    Wired (drainBatch actor.inbox rt batch) ∧
      (drainBatch actor.inbox rt batch).grid.cellSize = rt.grid.cellSize ∧
      (drainBatch actor.inbox rt batch).actors.lookup id = some (drainActor rt.grid.cellSize actor batch) ∧
      (drainActor rt.grid.cellSize actor batch).isAlive = true := by
  let filled : ActorRuntime := { rt with inboxes := rt.inboxes.set actor.inbox batch.messages }
  have wiredThere : Wired filled := wired.setInboxes rfl
  have tick := tick_spec wiredThere batch.ord batch.tickNum
  have inbox : filled.inboxes.pending actor.inbox = batch.messages := Function.update_self _ _ _
  have lifecycle : (drainActor rt.grid.cellSize actor batch).isAlive = true := by
    unfold Actor.isAlive
    rw [afterTick_lifecycle, drained, (drainInbox_running running _).1]
    exact alive
  have next : ticked filled batch.tickNum actor = drainActor rt.grid.cellSize actor batch := by
    unfold ticked
    rw [inbox]
  refine ⟨tick.wired, tick.cellSize, (tick.lookup id).trans ?_, lifecycle⟩
  have there : filled.actors.lookup id = some actor := found
  rw [there, Option.map_some, next, Option.filter_some_pos lifecycle]

theorem drainBatches_spec {rt : ActorRuntime} (wired : Wired rt) {id : ActorId}
    (found : rt.actors.lookup id = some actor) (alive : actor.isAlive = true) (batches : List Batch)
    (running : .Shutdown ∉ (batches.map Batch.messages).flatten) :
    outcomeOf (batches.foldl (drainBatch actor.inbox) rt) id =
      some (outcome (batches.foldl (drainActor rt.grid.cellSize) actor)) := by
  induction batches generalizing rt actor with
  | nil =>
      rw [outcomeOf, List.foldl_nil, found]
      rfl
  | cons batch rest ih =>
      rw [List.map_cons, List.flatten_cons, List.mem_append, not_or] at running
      obtain ⟨wired', cellSize, found', alive'⟩ := drainBatch_spec wired found alive batch running.1
      have later := ih wired' found' alive' running.2
      rw [cellSize, (afterTick_same rt.grid.cellSize batch.tickNum batch.messages actor).inbox] at later
      exact later

/-! ## When the batches do not matter -/

theorem wholePosition_killed (home : KilledAtHome actor messages) (killed : KilledAfterMove actor messages) :
    wholePosition cellSize actor messages = actor.spec.position := by
  obtain ⟨before, dest, after, rfl, still, dead⟩ := killed
  unfold wholePosition
  rw [route_append]
  change (route cellSize (dest, dest.toGridCell cellSize) after).1 = _
  rw [route_still still]
  exact home before dest after rfl still dead

theorem outcome_whole (home : KilledAtHome actor messages) {last : Actor}
    (drained : DrainedAll cellSize messages actor last) :
    outcome last = ⟨wholePosition cellSize actor messages, (route cellSize (place actor) messages).2,
      (handleAll actor messages).state.hp, (handleAll actor messages).state.xp, (handleAll actor messages).state.level,
      (handleAll actor messages).state.lastUtterance⟩ := by
  have position : last.state.position = wholePosition cellSize actor messages := by
    rcases drained.position with whole | ⟨born, killed⟩
    · exact whole
    · rw [born, wholePosition_killed home killed]
  unfold outcome
  rw [position, drained.cell, drained.vitals.hp, drained.vitals.xp, drained.vitals.level, drained.vitals.lastUtterance]

theorem dies_of_fatal {maxHp hp : UInt8} {before after : List ActorMessage} {amount : UInt8} {fromName : String}
    (fatal : saturatingSub8 (hpAfter maxHp hp before) amount = 0) :
    dies (hpAfter maxHp hp before) (.TakeDamage amount fromName :: after) = true := by
  simp only [dies, fatal, if_true]

theorem wholePosition_fatal (home : KilledAtHome actor messages) {before after : List ActorMessage} {amount : UInt8}
    {fromName : String} (split : messages = before ++ .TakeDamage amount fromName :: after)
    (still : pendingMove after = false)
    (fatal : saturatingSub8 (hpAfter actor.state.maxHp actor.state.hp before) amount = 0) :
    wholePosition cellSize actor messages = actor.spec.position := by
  have dead : dies (hpAfter actor.state.maxHp actor.state.hp before) (.TakeDamage amount fromName :: after) = true :=
    dies_of_fatal fatal
  subst split
  by_cases moved : pendingMove before = true
  · exact wholePosition_killed home (killed_later _ _ moved still dead)
  · rw [Bool.not_eq_true] at moved
    have nobody : pendingMove (before ++ .TakeDamage amount fromName :: after) = false := by
      rw [pendingMove_append, moved]
      exact still
    unfold wholePosition
    rw [route_still nobody, dies_append actor.state.maxHp, dead, Bool.or_true, if_pos rfl]

-- the moves up to the last one in one tick, the rest in another
theorem killed_in_second_tick {before after : List ActorMessage} {dest : Position}
    (running : .Shutdown ∉ before ++ .Move dest :: after) (still : pendingMove after = false)
    (dead : dies (hpAfter actor.state.maxHp actor.state.hp before) after = true) (tickNum : UInt64) :
    (afterTick cellSize tickNum after (afterTick cellSize tickNum (before ++ [.Move dest]) actor)).state.position =
      actor.spec.position := by
  have running' : .Shutdown ∉ before ++ [ActorMessage.Move dest] ∧ .Shutdown ∉ after := by
    simp only [List.mem_append, List.mem_cons, List.not_mem_nil, or_false, not_or] at running ⊢
    exact ⟨⟨running.1, running.2.1⟩, running.2.2⟩
  have first : Drained cellSize (before ++ [.Move dest]) actor
      (afterTick cellSize tickNum (before ++ [.Move dest]) actor) := drained_afterTick running'.1 actor
  have second : Drained cellSize after _
      (afterTick cellSize tickNum after (afterTick cellSize tickNum (before ++ [.Move dest]) actor)) :=
    drained_afterTick running'.2 _
  rw [second.position, wholePosition, route_still still, first.hp, hpAfter_append, first.spec]
  exact if_pos dead

/-- The batches do not matter exactly when nobody is told to walk away and killed afterwards. -/
theorem batching_iff {rt : ActorRuntime} (wired : Wired rt) {id : ActorId} {actor : Actor}
    (found : rt.actors.lookup id = some actor) (alive : actor.isAlive = true) (messages : List ActorMessage)
    (running : .Shutdown ∉ messages) :
    BatchingIndependent rt id actor messages ↔ KilledAtHome actor messages := by
  have drain (batches : List Batch) (same : (batches.map Batch.messages).flatten = messages) :
      outcomeOf (batches.foldl (drainBatch actor.inbox) rt) id =
          some (outcome (batches.foldl (drainActor rt.grid.cellSize) actor)) ∧
        DrainedAll rt.grid.cellSize messages actor (batches.foldl (drainActor rt.grid.cellSize) actor) := by
    rw [← same] at running
    exact ⟨drainBatches_spec wired found alive batches running, same ▸ drainedAll_batches batches actor running⟩
  constructor
  · intro independent before dest after split still dead
    have apart := independent.split ⟨messages, .stored, 0⟩ rfl
      [⟨before ++ [.Move dest], .stored, 0⟩, ⟨after, .stored, 0⟩] (by simp [split])
    have together : outcomeOf (drainBatch actor.inbox rt ⟨messages, .stored, 0⟩) id =
        some (outcome (afterTick rt.grid.cellSize 0 messages actor)) :=
      (drain [⟨messages, .stored, 0⟩] (by simp)).1
    rw [(drain _ (by simp [split])).1, together] at apart
    have there : (afterTick rt.grid.cellSize 0 messages actor).state.position = dest := by
      rw [(drained_afterTick running actor).position, wholePosition, split, route_append]
      change (route rt.grid.cellSize (dest, dest.toGridCell rt.grid.cellSize) after).1 = dest
      rw [route_still still]
    rw [← there, ← killed_in_second_tick (split ▸ running) still dead 0]
    exact (congrArg Outcome.position (Option.some.inj apart)).symm
  · intro home
    have outcomes (batches : List Batch) (same : (batches.map Batch.messages).flatten = messages) :=
      (drain batches same).1.trans (congrArg some (outcome_whole home (drain batches same).2))
    refine ⟨fun whole same batches split => ?_, fun whole same before amount fromName after split still fatal => ?_⟩
    · have one := outcomes [whole] (by simp [same])
      exact (outcomes batches split).trans one.symm
    · have one := outcomes [whole] (by simp [same])
      rw [List.foldl_cons, List.foldl_nil] at one
      rw [one, Option.map_some]
      exact congrArg some (wholePosition_fatal home split still fatal)

/-! ## A walk that ends in death -/

def walker : ActorRuntime := ((ActorRuntime.new .default).spawnActor (villager 1 ⟨5, 5⟩)).2

theorem wired_walker : Wired walker := (consistent_new .default).toWired.spawn _

def standing : Actor := newborn (ActorRuntime.new .default) (villager 1 ⟨5, 5⟩)

theorem batching_walk_home :
    walker.actors.lookup ⟨1⟩ = some standing ∧
      BatchingIndependent walker ⟨1⟩ standing [.TakeDamage 30 "Knight", .Move ⟨50, 5⟩, .TakeDamage 30 "Knight"] := by
  have found : walker.actors.lookup ⟨1⟩ = some standing := by decide +kernel
  refine ⟨found, (batching_iff wired_walker found (by decide) _ (by decide)).mpr ?_⟩
  intro before dest after split still dead
  rcases before with _ | ⟨first, _ | ⟨second, _ | ⟨third, before⟩⟩⟩
  · cases split
  · cases split
    exact absurd dead (by decide +kernel)
  · cases split
  · simp at split

theorem batching_walk_away :
    ¬∀ rt, Wired rt → ∀ id actor, rt.actors.lookup id = some actor → actor.isAlive = true →
      ∀ messages, .Shutdown ∉ messages → BatchingIndependent rt id actor messages := by
  intro claim
  have found : walker.actors.lookup ⟨1⟩ = some standing := by decide +kernel
  have independent := claim walker wired_walker ⟨1⟩ standing found (by decide)
    [.Move ⟨50, 5⟩, .TakeDamage 80 "Knight"] (by decide)
  have apart := independent.split ⟨_, .stored, 0⟩ rfl
    [⟨[.Move ⟨50, 5⟩], .stored, 0⟩, ⟨[.TakeDamage 80 "Knight"], .stored, 0⟩] rfl
  revert apart
  decide +kernel

end LiveWorld.Proof.Runtime

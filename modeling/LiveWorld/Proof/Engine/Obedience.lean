import LiveWorld.Proof.Engine.Chronicle
import LiveWorld.Proof.Engine.War
import LiveWorld.Spec.Obedience

/-!
# Orders are carried out

The civil messages in an inbox are the orders since the last tick. A tick empties every inbox, and what combat then puts
there is not civil.
-/

namespace LiveWorld.Proof.Engine
open HashTable Spec Proof.Runtime
variable {cfg : WorldConfig} {d : Docket} {actor : Actor} {id : ActorId} {own : List ActorEffect}
  {engine : WorldEngine}

/-! ## One actor -/

def Lively (_ : ActorSpec) (msg : ActorMessage) : Prop := msg ≠ .Shutdown

structure Heard (own : List ActorEffect) (actor : Actor) : Prop where
  loyal : actor.state.faction = actor.spec.faction
  utterance : actor.state.lastUtterance = (own.filterMap utterance).getLast?

theorem heard_handle (msg : ActorMessage) (heard : Heard own actor) :
    Heard (own ++ (actor.handleMessage msg).2) (actor.handleMessage msg).1 := by
  have silent (effect : ActorEffect) (mute : utterance effect = none) :
      actor.state.lastUtterance = ((own ++ [effect]).filterMap utterance).getLast? := by
    rw [List.filterMap_append, List.filterMap_cons_none mute, heard.utterance]
    exact congrArg List.getLast? (List.append_nil _).symm
  cases msg with
  | Speak text =>
      refine ⟨heard.loyal, ?_⟩
      rw [Actor.handleMessage, List.filterMap_append]
      exact List.getLast?_concat.symm
  | TakeDamage amount fromName =>
      simp only [Actor.handleMessage, Actor.takeDamage]
      split_ifs
      · exact ⟨heard.loyal, silent _ rfl⟩
      · exact ⟨heard.loyal, silent _ rfl⟩
  | GainXp amount =>
      simp only [Actor.handleMessage, Actor.gainXp]
      split_ifs
      · exact ⟨heard.loyal, silent _ rfl⟩
      · rw [List.append_nil]
        exact ⟨heard.loyal, heard.utterance⟩
  | Shutdown =>
      rw [Actor.handleMessage, List.append_nil]
      exact ⟨heard.loyal, heard.utterance⟩
  | Move | Interact => exact ⟨heard.loyal, silent _ rfl⟩

theorem hearing : Regime Lively Heard fun _ => True where
  born _ _ := ⟨rfl, rfl⟩
  ticked _ _ _ given := ⟨given.loyal, given.utterance⟩
  handled _ _ msg _ := heard_handle msg
  moved _ _ _ _ _ _ given := ⟨given.loyal, given.utterance⟩
  states _ _ _ := trivial
  loyal _ _ given := given.loyal
  civil _ msg civil := by
    rintro rfl
    exact civil
  blows _ _ _ _ _ _ _ := by
    intro same
    cases same
  rewards _ _ _ _ _ _ _ := by
    intro same
    cases same

/-- A message is carried out as an order exactly if it is civil. -/
theorem orderOf_handle (actor : Actor) (msg : ActorMessage) :
    (actor.handleMessage msg).2.filterMap orderOf = [msg].filter Civil := by
  cases msg with
  | TakeDamage amount fromName =>
      simp only [Actor.handleMessage, Actor.takeDamage]
      split_ifs <;> rfl
  | GainXp amount =>
      simp only [Actor.handleMessage, Actor.gainXp]
      split_ifs <;> rfl
  | Move | Speak | Interact | Shutdown => rfl

theorem drainInbox_lively (actor : Actor) {messages : List ActorMessage} (lively : .Shutdown ∉ messages) :
    (actor.drainInbox messages).2.1.filterMap orderOf = messages.filter Civil ∧ (actor.drainInbox messages).2.2 = [] := by
  induction messages generalizing actor with
  | nil => exact ⟨rfl, rfl⟩
  | cons msg rest ih =>
      rw [List.mem_cons, not_or] at lively
      obtain ⟨orders, left⟩ := ih (actor.handleMessage msg).1 lively.2
      simp only [Actor.drainInbox, if_neg (Ne.symm lively.1)]
      refine ⟨?_, left⟩
      rw [List.filterMap_append, orderOf_handle, orders, ← List.filter_append]
      rfl

theorem drainInbox_place (actor : Actor) (messages : List ActorMessage)
    (survives : (actor.drainInbox messages).2.1.any isDeath = false) :
    (actor.drainInbox messages).1.state.position = actor.state.position := by
  induction messages generalizing actor with
  | nil => rfl
  | cons msg rest ih =>
      have one (alive : (actor.handleMessage msg).2.any isDeath = false) :
          (actor.handleMessage msg).1.state.position = actor.state.position := by
        cases msg with
        | TakeDamage amount fromName =>
            simp only [Actor.handleMessage, Actor.takeDamage] at alive ⊢
            split_ifs at alive ⊢
            · cases alive
            · rfl
        | GainXp amount =>
            simp only [Actor.handleMessage, Actor.gainXp]
            split_ifs <;> rfl
        | Move | Speak | Interact | Shutdown => rfl
      simp only [Actor.drainInbox] at survives ⊢
      split_ifs at survives ⊢
      · exact one survives
      · rw [List.any_append, Bool.or_eq_false_iff] at survives
        exact (ih _ survives.2).trans (one survives.1)

theorem relocate_place (cellSize : Rat) (actor : Actor) (effects : List ActorEffect) :
    (relocate cellSize actor effects).state.position =
      ((effects.filterMap destination).getLast?).getD actor.state.position := by
  induction effects generalizing actor with
  | nil => rfl
  | cons effect rest ih =>
      cases effect with
      | Move mover dest =>
          refine (ih _).trans ?_
          rw [List.filterMap_cons_some (rfl : destination (.Move mover dest) = some dest), List.getLast?_cons]
          rfl
      | _ => exact ih actor

theorem ticked_place (rt : ActorRuntime) (tickNum : UInt64) (actor : Actor)
    (survives : (effectsOf rt tickNum actor).any isDeath = false) :
    (ticked rt tickNum actor).state.position =
      (((effectsOf rt tickNum actor).filterMap destination).getLast?).getD actor.state.position := by
  have drained := drainInbox_place (actor.tick tickNum) (rt.inboxes.pending actor.inbox) survives
  rw [ticked, afterTick, relocate_place]
  exact congrArg _ drained

/-! ## Between two ticks -/

theorem ordersTo_append (id : ActorId) (early late : List (ActorId × ActorMessage)) :
    ordersTo id (early ++ late) = ordersTo id early ++ ordersTo id late := by
  rw [ordersTo, List.filter_append, List.map_append]
  rfl

theorem ordersTo_ite (id target : ActorId) (msg : ActorMessage) (taken : Bool) :
    ordersTo id (if taken then some (target, msg) else none).toList = if target = id ∧ taken = true then [msg] else [] := by
  cases taken with
  | false => simp [ordersTo]
  | true =>
      by_cases same : target = id
      · simp [ordersTo, same]
      · simp [ordersTo, same]

theorem filter_civil_ite {messages : List ActorMessage} {msg : ActorMessage} (civil : Civil msg) (grows : Prop)
    [Decidable grows] :
    (if grows then messages ++ [msg] else messages).filter Civil = messages.filter Civil ++ if grows then [msg] else [] := by
  split_ifs
  · have kept : [msg].filter Civil = [msg] := by simp [civil]
    rw [List.filter_append, kept]
  · exact (List.append_nil _).symm

theorem send_taken (handle : ActorHandle) (inboxes : Inboxes) (msg : ActorMessage) :
    (handle.send inboxes msg).1 = true ↔ (inboxes.pending handle.sender).length < queueSize - 1 := by
  unfold ActorHandle.send
  simp only
  split_ifs with room
  · exact iff_of_true rfl room
  · simpa using room

theorem sendToActor_taken (wired : Wired engine.runtime) (found : engine.runtime.actors.lookup id = some actor)
    (msg : ActorMessage) :
    (engine.sendToActor id msg).1 = true ↔ (engine.runtime.inboxes.pending actor.inbox).length < queueSize - 1 := by
  obtain ⟨handle, held⟩ := HashMap.mem_iff_lookup.mp ((wired.sameKeys id).mp (HashMap.mem_of_lookup found))
  have feeds := wired.feeds id actor handle found held
  rw [WorldEngine.sendToActor, ActorRuntime.handle, held, ← feeds]
  exact send_taken handle engine.runtime.inboxes msg

/-- An actor after a call that is no tick: an old one, with the order that was accepted for it, or a new one. -/
inductive Fate (engine : WorldEngine) (call : EngineCall) (id : ActorId) (actor : Actor) : Prop
  | old (before : engine.runtime.actors.lookup id = some actor)
      (mail : ((call.apply engine).runtime.inboxes.pending actor.inbox).filter Civil =
        (engine.runtime.inboxes.pending actor.inbox).filter Civil ++ ordersTo id (Docket.accepted engine call).toList)
  | born (spec : ActorSpec) (spawned : call.spawned = some spec) (named : id = spec.id)
      (same : actor = newborn engine.runtime spec)
      (mail : (call.apply engine).runtime.inboxes.pending actor.inbox = []) (nothing : Docket.accepted engine call = none)

theorem fate_same {call : EngineCall} (same : (call.apply engine).runtime = engine.runtime)
    (nothing : Docket.accepted engine call = none)
    (found : (call.apply engine).runtime.actors.lookup id = some actor) : Fate engine call id actor := by
  rw [same] at found
  refine .old found ?_
  rw [same, nothing]
  exact (List.append_nil _).symm

theorem fate_despawn {call : EngineCall} {gone : ActorId}
    (same : (call.apply engine).runtime = (engine.runtime.despawnActor gone).2)
    (nothing : Docket.accepted engine call = none)
    (found : (call.apply engine).runtime.actors.lookup id = some actor) : Fate engine call id actor := by
  rw [same, despawnActor_lookup] at found
  split_ifs at found
  refine .old found ?_
  rw [same, despawnActor_inboxes, nothing]
  exact (List.append_nil _).symm

theorem fate_spawn (wired : Wired engine.runtime) {call : EngineCall} {spec : ActorSpec} (spawned : call.spawned = some spec)
    (same : (call.apply engine).runtime = (engine.runtime.spawnActor spec).2)
    (nothing : Docket.accepted engine call = none)
    (found : (call.apply engine).runtime.actors.lookup id = some actor) : Fate engine call id actor := by
  have inboxes : (call.apply engine).runtime.inboxes.pending =
      Function.update engine.runtime.inboxes.pending engine.runtime.inboxes.next [] :=
    congrArg (fun rt : ActorRuntime => rt.inboxes.pending) same
  rw [same] at found
  rcases spawnActor_either found with ⟨named, rfl⟩ | ⟨-, old⟩
  · refine .born spec spawned named rfl ?_ nothing
    rw [inboxes]
    exact Function.update_self ..
  · refine .old old ?_
    rw [inboxes, nothing, Function.update_of_ne (wired.allocated id actor old).ne]
    exact (List.append_nil _).symm

theorem fate (wired : Wired engine.runtime) {call : EngineCall} (timeless : call.isTick = false)
    (civil : ∀ msg ∈ call.sent, Civil msg)
    (reaches : ∀ handle ∈ call.through, ∀ id actor, engine.runtime.actors.lookup id = some actor →
      (actor.inbox = handle.sender ↔ handle.id = id))
    (found : (call.apply engine).runtime.actors.lookup id = some actor) : Fate engine call id actor := by
  cases call with
  | spawnActorForSession ord spec session => exact fate_spawn wired rfl rfl rfl found
  | spawnActorStandalone spec => exact fate_spawn wired rfl rfl rfl found
  | removeSession session despawn =>
      rcases removeSession_runtime engine session despawn with same | ⟨gone, same⟩
      · exact fate_same same rfl found
      · exact fate_despawn same rfl found
  | despawnActor gone => exact fate_despawn rfl rfl found
  | broadcastWorldEvent message => exact fate_same rfl rfl found
  | drainSession session => exact fate_same (drainSession_runtime engine session) rfl found
  | tick ord clock => cases timeless
  | send handle msg =>
      refine .old found ?_
      have mine := reaches handle rfl id actor found
      have taken : (actor.inbox = handle.sender ∧ (engine.runtime.inboxes.pending actor.inbox).length < queueSize - 1) ↔
          (handle.id = id ∧ (handle.send engine.runtime.inboxes msg).1 = true) := by
        rw [send_taken, ← mine]
        exact and_congr_right fun same => by rw [same]
      change ((handle.send engine.runtime.inboxes msg).2.pending actor.inbox).filter Civil = _ ++
        ordersTo id (if (handle.send engine.runtime.inboxes msg).1 then some (handle.id, msg) else none).toList
      rw [pending_send, filter_civil_ite (civil msg rfl), ordersTo_ite]
      simp only [taken]
  | applyDirective directive =>
      cases directive with
      | ForceMove target dest =>
          have before : engine.runtime.actors.lookup id = some actor := by
            rw [EngineCall.apply, (effected_applyDirective engine _).actors] at found
            exact found
          refine .old before ?_
          have taken : (target = id ∧ (engine.runtime.inboxes.pending actor.inbox).length < queueSize - 1) ↔
              (target = id ∧ (engine.sendToActor target (.Move dest)).1 = true) := by
            refine and_congr_right fun same => ?_
            subst same
            exact (sendToActor_taken wired before _).symm
          change ((engine.sendToActor target (.Move dest)).2.runtime.inboxes.pending actor.inbox).filter Civil = _ ++
            ordersTo id (if (engine.sendToActor target (.Move dest)).1 then some (target, .Move dest) else none).toList
          rw [pending_sendToActor wired before, filter_civil_ite (civil _ rfl), ordersTo_ite]
          simp only [taken]
      | NarrativeEvent | EconomyAdjust | FlagActor => exact fate_same rfl rfl found

/-! ## Handles -/

theorem next_call (engine : WorldEngine) (call : EngineCall) :
    (call.apply engine).runtime.inboxes.next = engine.runtime.inboxes.next + if call.spawned.isSome then 1 else 0 := by
  cases call with
  | spawnActorForSession ord spec session => rfl
  | spawnActorStandalone spec => rfl
  | removeSession session despawn =>
      rcases removeSession_runtime engine session despawn with same | ⟨gone, same⟩
      · exact congrArg (fun rt : ActorRuntime => rt.inboxes.next) same
      · refine (congrArg (fun rt : ActorRuntime => rt.inboxes.next) same).trans ?_
        simp only [despawnActor_inboxes]
        rfl
  | despawnActor gone => exact congrArg Inboxes.next (despawnActor_inboxes engine.runtime gone)
  | send handle msg => exact (effected_send engine handle msg).next
  | applyDirective directive => exact (effected_applyDirective engine directive).next
  | broadcastWorldEvent message => rfl
  | drainSession session =>
      exact congrArg (fun rt : ActorRuntime => rt.inboxes.next) (drainSession_runtime engine session)
  | tick ord clock =>
      have drained : (afterDrain engine ord).runtime.inboxes.next = engine.runtime.inboxes.next :=
        tick_next engine.runtime ord _
      exact (congrArg (fun rt : ActorRuntime => rt.inboxes.next) (finished_tick engine ord clock).runtime).trans
        ((effected_applyEffects engine ord).next.trans drained)

theorem granted_spawned {call : EngineCall} {handle : ActorHandle} (granted : Docket.granted engine call = some handle) :
    ∃ spec, call.spawned = some spec ∧ handle = ⟨spec.id, engine.runtime.inboxes.next⟩ := by
  cases call with
  | spawnActorForSession ord spec session => exact ⟨spec, rfl, (Option.some.inj granted).symm⟩
  | spawnActorStandalone spec => exact ⟨spec, rfl, (Option.some.inj granted).symm⟩
  | _ => cases granted

theorem found_tick (wired : Wired engine.runtime) (ord : Order) (clock : SessionId → UInt64)
    (found : (engine.tick ord clock).runtime.actors.lookup id = some actor) :
    ∃ old, engine.runtime.actors.lookup id = some old ∧ actor = ticked engine.runtime (engine.tickCount + 1) old := by
  rw [(finished_tick engine ord clock).runtime, (effected_applyEffects engine ord).actors] at found
  replace found := ((tick_spec wired ord (engine.tickCount + 1)).lookup id).symm.trans found
  rw [Option.filter_eq_some_iff, Option.map_eq_some_iff] at found
  obtain ⟨⟨old, before, same⟩, -⟩ := found
  exact ⟨old, before, same.symm⟩

theorem ticked_inbox (rt : ActorRuntime) (tickNum : UInt64) (actor : Actor) : (ticked rt tickNum actor).inbox = actor.inbox :=
  (afterTick_same rt.grid.cellSize tickNum (rt.inboxes.pending actor.inbox) actor).inbox

structure Issued (d : Docket) : Prop where
  known : ∀ handle ∈ d.handles, handle.id ∈ d.chronicle.world.actorIds
  allocated : ∀ handle ∈ d.handles, handle.sender < d.chronicle.world.engine.runtime.inboxes.next
  reaches : ∀ handle ∈ d.handles, ∀ id actor, d.chronicle.world.engine.runtime.actors.lookup id = some actor →
    (actor.inbox = handle.sender ↔ handle.id = id)

theorem Issued.call (issued : Issued d) (wired : Wired d.chronicle.world.engine.runtime)
    (used : ∀ id ∈ d.chronicle.world.engine.runtime.actors, id ∈ d.chronicle.world.actorIds) {call : EngineCall}
    (allowed : d.Allowed call) : Issued (d.next call) := by
  have next := next_call d.chronicle.world.engine call
  have grown : ∀ id ∈ d.chronicle.world.actorIds, id ∈ (d.next call).chronicle.world.actorIds :=
    fun id member => List.mem_append_right _ member
  have either (handle : ActorHandle) (member : handle ∈ (d.next call).handles) :
      handle ∈ d.handles ∨ ∃ spec, call.spawned = some spec ∧
        handle = ⟨spec.id, d.chronicle.world.engine.runtime.inboxes.next⟩ := by
    rcases List.mem_append.mp member with new | old
    · exact .inr (granted_spawned (Option.mem_toList.mp new))
    · exact .inl old
  refine ⟨fun handle member => ?_, fun handle member => ?_, fun handle member id actor found => ?_⟩
  · rcases either handle member with old | ⟨spec, spawned, rfl⟩
    · exact grown _ (issued.known handle old)
    · refine List.mem_append_left _ ?_
      rw [spawned]
      exact List.mem_singleton.mpr rfl
  · change handle.sender < (call.apply d.chronicle.world.engine).runtime.inboxes.next
    rcases either handle member with old | ⟨spec, spawned, rfl⟩
    · exact (issued.allocated handle old).trans_le (next ▸ Nat.le_add_right _ _)
    · rw [next, spawned]
      exact Nat.lt_succ_self _
  · cases timeless : call.isTick with
    | true =>
        cases call with
        | tick ord clock =>
            obtain ⟨old, before, rfl⟩ := found_tick wired ord clock found
            rw [ticked_inbox]
            rcases either handle member with held | ⟨spec, spawned, -⟩
            · exact issued.reaches handle held id old before
            · cases spawned
        | _ => cases timeless
    | false =>
        have reaches := fun held through => issued.reaches held (allowed.2 held through)
        cases fate wired timeless allowed.1.2 reaches found with
        | old before mail =>
            rcases either handle member with held | ⟨spec, spawned, rfl⟩
            · exact issued.reaches handle held id actor before
            · refine iff_of_false (wired.allocated id actor before).ne ?_
              rintro rfl
              exact allowed.1.1 spec spawned (used _ (HashMap.mem_of_lookup before))
        | born spec spawned named same mail nothing =>
            subst named same
            rcases either handle member with held | ⟨other, again, rfl⟩
            · refine iff_of_false (issued.allocated handle held).ne' fun equal => ?_
              exact allowed.1.1 spec spawned (equal ▸ issued.known handle held)
            · cases spawned.symm.trans again
              exact iff_of_true rfl rfl

structure OnRecord (d : Docket) : Prop where
  known : ∀ order ∈ d.settled ++ d.recent, order.1 ∈ d.chronicle.world.actorIds
  waiting : ∀ id actor, d.chronicle.world.engine.runtime.actors.lookup id = some actor →
    (d.chronicle.world.engine.runtime.inboxes.pending actor.inbox).filter Civil = ordersTo id d.recent
  inTurn : ∀ id actor, d.chronicle.world.engine.runtime.actors.lookup id = some actor →
    (effectsFrom id d.chronicle.log).filterMap orderOf = ordersTo id d.settled
  place : ∀ id actor, d.chronicle.world.engine.runtime.actors.lookup id = some actor →
    (effectsFrom id d.chronicle.log).any isDeath = false →
    actor.state.position = (((effectsFrom id d.chronicle.log).filterMap destination).getLast?).getD actor.spec.position

theorem accepted_known {call : EngineCall} (issued : Issued d) (wired : Wired d.chronicle.world.engine.runtime)
    (used : ∀ id ∈ d.chronicle.world.engine.runtime.actors, id ∈ d.chronicle.world.actorIds) (allowed : d.Allowed call)
    {order : ActorId × ActorMessage} (accepted : Docket.accepted d.chronicle.world.engine call = some order) :
    order.1 ∈ d.chronicle.world.actorIds := by
  cases call with
  | send handle msg =>
      simp only [Docket.accepted] at accepted
      split_ifs at accepted
      cases accepted
      exact issued.known handle (allowed.2 handle rfl)
  | applyDirective directive =>
      cases directive with
      | ForceMove id dest =>
          simp only [Docket.accepted] at accepted
          split_ifs at accepted with taken
          cases accepted
          apply used
          rw [wired.sameKeys]
          cases held : d.chronicle.world.engine.runtime.handles.lookup id with
          | some handle => exact HashMap.mem_of_lookup held
          | none => simp [WorldEngine.sendToActor, ActorRuntime.handle, held] at taken
      | _ => cases accepted
  | _ => cases accepted

theorem ordersTo_unknown {orders : List (ActorId × ActorMessage)} (unknown : ∀ order ∈ orders, order.1 ≠ id) :
    ordersTo id orders = [] := by
  rw [ordersTo, List.map_eq_nil_iff, List.filter_eq_nil_iff]
  intro order member
  rw [decide_eq_true_iff]
  exact unknown order member

theorem OnRecord.timeless (record : OnRecord d) (issued : Issued d) (governs : Governs Lively Heard d.chronicle.log d.chronicle.world.engine)
    (recorded : Recorded (fun _ => True) d.chronicle) {call : EngineCall} (allowed : d.Allowed call)
    (timeless : call.isTick = false) : OnRecord (d.next call) := by
  have grown : ∀ id ∈ d.chronicle.world.actorIds, id ∈ (d.next call).chronicle.world.actorIds :=
    fun id member => List.mem_append_right _ member
  have log : (d.next call).chronicle.log = d.chronicle.log := by
    cases call with
    | tick => cases timeless
    | _ => exact List.append_nil _
  have settled : (d.next call).settled = d.settled := by
    rw [Docket.next, timeless]
    rfl
  have recent : (d.next call).recent = d.recent ++ (Docket.accepted d.chronicle.world.engine call).toList := by
    rw [Docket.next, timeless]
    rfl
  have reaches := fun held through => issued.reaches held (allowed.2 held through)
  have ruled (id : ActorId) (actor : Actor)
      (found : (call.apply d.chronicle.world.engine).runtime.actors.lookup id = some actor) :=
    fate governs.wired timeless allowed.1.2 reaches found
  -- nobody has been ordered anything under an id that is only now given
  have unknown (spec : ActorSpec) (spawned : call.spawned = some spec) :
      ordersTo spec.id d.settled = [] ∧ ordersTo spec.id d.recent = [] := by
    have fresh := allowed.1.1 spec spawned
    constructor
    · refine ordersTo_unknown fun order member same => fresh ?_
      exact same ▸ record.known order (List.mem_append_left _ member)
    · refine ordersTo_unknown fun order member same => fresh ?_
      exact same ▸ record.known order (List.mem_append_right _ member)
  refine ⟨fun order member => ?_, fun id actor found => ?_, fun id actor found => ?_, fun id actor found => ?_⟩
  · rw [settled, recent, ← List.append_assoc] at member
    rcases List.mem_append.mp member with old | new
    · exact grown _ (record.known order old)
    · exact grown _ (accepted_known issued governs.wired recorded.used allowed (Option.mem_toList.mp new))
  · rw [recent, ordersTo_append]
    cases ruled id actor found with
    | old before mail =>
        refine Eq.trans mail ?_
        rw [record.waiting id actor before]
    | born spec spawned named same mail nothing =>
        subst named
        refine (congrArg (List.filter Civil) mail).trans ?_
        rw [(unknown spec spawned).2, nothing]
        rfl
  · rw [log, settled]
    cases ruled id actor found with
    | old before mail => exact record.inTurn id actor before
    | born spec spawned named same mail nothing =>
        subst named
        rw [recorded.silent (allowed.1.1 spec spawned), (unknown spec spawned).1]
        rfl
  · rw [log]
    cases ruled id actor found with
    | old before mail => exact record.place id actor before
    | born spec spawned named same mail nothing =>
        subst named same
        rw [recorded.silent (allowed.1.1 spec spawned)]
        exact fun _ => rfl

theorem filter_combat {messages : List ActorMessage} (combat : ∀ msg ∈ messages, Combat msg) : messages.filter Civil = [] := by
  rw [List.filter_eq_nil_iff]
  intro msg member civil
  rw [decide_eq_true_iff] at civil
  cases msg with
  | Move | Speak | Interact => exact combat _ member
  | TakeDamage | GainXp | Shutdown => exact civil

theorem getD_getLast?_append (early late : List Position) (birth : Position) :
    ((early ++ late).getLast?).getD birth = (late.getLast?).getD ((early.getLast?).getD birth) := by
  rw [List.getLast?_append]
  cases late.getLast? <;> rfl

theorem OnRecord.tick (record : OnRecord d) (governs : Governs Lively Heard d.chronicle.log d.chronicle.world.engine)
    (ord : Order) (clock : SessionId → UInt64) : OnRecord (d.next (.tick ord clock)) := by
  have wired := governs.wired
  have lively (id : ActorId) (old : Actor) (before : d.chronicle.world.engine.runtime.actors.lookup id = some old) :
      .Shutdown ∉ d.chronicle.world.engine.runtime.inboxes.pending old.inbox :=
    fun member => governs.mail id old before _ member rfl
  have drains (id : ActorId) (old : Actor) (before : d.chronicle.world.engine.runtime.actors.lookup id = some old) :=
    drainInbox_lively (old.tick (d.chronicle.world.engine.tickCount + 1)) (lively id old before)
  have log (id : ActorId) (old : Actor) (before : d.chronicle.world.engine.runtime.actors.lookup id = some old) :
      effectsFrom id (d.next (.tick ord clock)).chronicle.log = effectsFrom id d.chronicle.log ++
        effectsOf d.chronicle.world.engine.runtime (d.chronicle.world.engine.tickCount + 1) old := by
    change effectsFrom id (d.chronicle.log ++ _) = _
    rw [effectsFrom_append, Chronicle.reported, effectsFrom_tick wired, before]
    rfl
  refine ⟨fun order member => ?_, fun id actor found => ?_, fun id actor found => ?_, fun id actor found => ?_⟩
  · change order ∈ (d.settled ++ d.recent) ++ [] at member
    rw [List.append_nil] at member
    exact record.known order member
  · obtain ⟨old, before, rfl⟩ := found_tick wired ord clock found
    obtain ⟨new, grown, combat⟩ := (effected_applyEffects d.chronicle.world.engine ord).grown old.inbox
    have left := (tick_spec wired ord (d.chronicle.world.engine.tickCount + 1)).left id old before
    rw [ticked_inbox]
    change ((d.chronicle.world.engine.tick ord clock).runtime.inboxes.pending old.inbox).filter Civil = []
    rw [(finished_tick d.chronicle.world.engine ord clock).runtime, grown, List.filter_append, filter_combat combat]
    exact (List.append_nil _).trans (congrArg _ (left.trans (drains id old before).2))
  · obtain ⟨old, before, rfl⟩ := found_tick wired ord clock found
    have carried : (effectsOf d.chronicle.world.engine.runtime (d.chronicle.world.engine.tickCount + 1) old).filterMap orderOf =
        ordersTo id d.recent := (drains id old before).1.trans (record.waiting id old before)
    rw [log id old before, List.filterMap_append, record.inTurn id old before, carried, ← ordersTo_append]
    rfl
  · obtain ⟨old, before, rfl⟩ := found_tick wired ord clock found
    rw [log id old before, List.any_append, Bool.or_eq_false_iff]
    rintro ⟨earlier, now⟩
    rw [ticked_place _ _ _ now, record.place id old before earlier, List.filterMap_append, getD_getLast?_append, ticked,
      (afterTick_same _ _ _ old).spec]
    rfl

theorem orders_on_record (reachable : DocketReachable cfg d) :
    ChronicleReachable cfg d.chronicle ∧ Issued d ∧ OnRecord d := by
  induction reachable with
  | start first =>
      subst first
      have nobody (handle : ActorHandle) (member : handle ∈ (Docket.start cfg).handles) : False := List.not_mem_nil member
      have empty (id : ActorId) (actor : Actor)
          (found : (Docket.start cfg).chronicle.world.engine.runtime.actors.lookup id = some actor) : False :=
        AList.notMem_empty id (HashMap.mem_of_lookup found)
      refine ⟨.start rfl, ⟨fun handle member => (nobody handle member).elim, fun handle member => (nobody handle member).elim,
        fun handle member => (nobody handle member).elim⟩, ⟨fun order member => (List.not_mem_nil member).elim,
        fun id actor found => (empty id actor found).elim, fun id actor found => (empty id actor found).elim,
        fun id actor found => (empty id actor found).elim⟩⟩
  | @step d _ call before allowed moved ih =>
      cases moved
      obtain ⟨chronicle, issued, record⟩ := ih
      obtain ⟨governs, recorded⟩ := hearing.reachable chronicle
      refine ⟨chronicle.step allowed.1 rfl, issued.call governs.wired recorded.used allowed, ?_⟩
      cases timeless : call.isTick with
      | false => exact record.timeless issued governs recorded allowed timeless
      | true =>
          cases call with
          | tick ord clock => exact record.tick governs ord clock
          | _ => cases timeless

theorem orders_are_carried_out (cfg : WorldConfig) (d : Docket) (reachable : DocketReachable cfg d) (id : ActorId)
    (actor : Actor) (found : d.chronicle.world.engine.runtime.actors.lookup id = some actor) : Obedient id actor d := by
  obtain ⟨chronicle, -, record⟩ := orders_on_record reachable
  obtain ⟨governs, -⟩ := hearing.reachable chronicle
  exact ⟨record.inTurn id actor found, (governs.holds id actor found).utterance, record.place id actor found⟩

-- the last order comes after the last tick, and waits
def heraldCalls : List EngineCall :=
  [.spawnActorStandalone (combatant 1 .Empire), .spawnActorStandalone (combatant 2 .Alliance),
    .send ⟨⟨1⟩, 0⟩ (.Speak "To arms!"), .send ⟨⟨1⟩, 0⟩ (.Move ⟨700, 900⟩), .tick .stored fun _ => 0,
    .send ⟨⟨2⟩, 1⟩ (.Interact ⟨1⟩ "ATTACK"), .applyDirective (.ForceMove ⟨1⟩ ⟨800, 900⟩), .tick .stored fun _ => 0,
    .send ⟨⟨1⟩, 0⟩ (.Speak "Charge!")]

def herald : Docket := heraldCalls.foldl Docket.next (Docket.start .default)

theorem herald_reachable : DocketReachable .default herald := by
  have allowed : Transition.Respects Docket.Allowed (fun d call => some (d.next call)) (Docket.start .default)
      heraldCalls := by
    decide +kernel
  exact Transition.Reachable.foldl (.start rfl) allowed

theorem herald_obeys :
    ∃ actor, herald.chronicle.world.engine.runtime.actors.lookup ⟨1⟩ = some actor ∧
      ordersTo ⟨1⟩ herald.settled = [.Speak "To arms!", .Move ⟨700, 900⟩, .Move ⟨800, 900⟩] ∧
      ordersTo ⟨1⟩ herald.recent = [.Speak "Charge!"] ∧ Obedient ⟨1⟩ actor herald := by
  have there : (herald.chronicle.world.engine.runtime.actors.lookup ⟨1⟩).isSome := by decide +kernel
  obtain ⟨actor, found⟩ := Option.isSome_iff_exists.mp there
  exact ⟨actor, found, by decide +kernel, by decide +kernel,
    orders_are_carried_out .default herald herald_reachable ⟨1⟩ actor found⟩

end LiveWorld.Proof.Engine

import LiveWorld.Proof.Engine.Calls
import LiveWorld.Proof.Engine.Deltas
import LiveWorld.Proof.Engine.News
import LiveWorld.Spec.Bookkeeping

/-!
# The discipline of a session's queue

`Flow` is all that a call can do to the queue of one session.
-/

namespace LiveWorld.Proof.Engine
open HashTable Spec Feed
variable {engine before after : WorldEngine} {session : SessionId} {call : EngineCall} {s : Feed}

/-! ## One queue -/

def events (messages : List String) : List SessionFrame := messages.map SessionFrame.WorldEvent

theorem deltaTicks_append (early late : List SessionFrame) :
    deltaTicks (early ++ late) = deltaTicks early ++ deltaTicks late :=
  List.filterMap_append

theorem deltaTicks_events (messages : List String) : deltaTicks (events messages) = [] := by
  induction messages with
  | nil => rfl
  | cons message rest ih => exact ih

theorem length_offerEvent (message : String) {queue : SessionQueue} (bounded : queue.length ≤ 64) :
    (WorldEngine.offerEvent message queue).length ≤ 64 := by
  unfold WorldEngine.offerEvent
  split_ifs with room
  · rw [List.length_append]
    exact room
  · exact bounded

theorem length_offerAll (news : List News) {queue : SessionQueue} (bounded : queue.length ≤ 64) :
    (offerAll queue news).length ≤ 64 := by
  induction news generalizing queue with
  | nil => exact bounded
  | cons item rest ih => exact ih (length_offerEvent item.text bounded)

theorem offerAll_events (queue : SessionQueue) (news : List News) :
    ∃ messages, offerAll queue news = queue ++ events messages := by
  induction news generalizing queue with
  | nil => exact ⟨[], (List.append_nil queue).symm⟩
  | cons item rest ih =>
      obtain ⟨first, offered⟩ := offerEvent_append item.text queue
      obtain ⟨later, told⟩ := ih (WorldEngine.offerEvent item.text queue)
      refine ⟨first ++ later, ?_⟩
      rw [events, List.map_append, ← List.append_assoc, ← offered]
      exact told

theorem length_pushDelta (delta : StateDelta) {queue : SessionQueue} (bounded : queue.length ≤ 64) :
    (WorldEngine.pushDelta delta queue).length ≤ 64 := by
  rw [WorldEngine.pushDelta, List.length_append, List.length_singleton]
  split_ifs with crowded
  · rw [List.length_tail]
    omega
  · omega

theorem pushDelta_sublist (delta : StateDelta) (queue : SessionQueue) :
    (WorldEngine.pushDelta delta queue).Sublist (queue ++ [.Delta delta]) := by
  unfold WorldEngine.pushDelta
  split_ifs
  · exact (List.tail_sublist queue).append_right _
  · exact .refl _

theorem getLast_pushDelta (delta : StateDelta) (queue : SessionQueue) :
    (WorldEngine.pushDelta delta queue).getLast? = some (.Delta delta) :=
  List.getLast?_concat

/-! ## One call -/

theorem queueOf_same (same : after.sessionQueues.lookup session = before.sessionQueues.lookup session) :
    queueOf after session = queueOf before session :=
  congrArg (Option.getD · []) same

theorem Told.queueOf {news : List News} (told : Told news before after) (session : SessionId) :
    ∃ messages, queueOf after session = queueOf before session ++ events messages ∧
      ((queueOf before session).length ≤ 64 → (queueOf after session).length ≤ 64) := by
  unfold Spec.queueOf
  rw [told.queues]
  cases before.sessionQueues.lookup session with
  | none => exact ⟨[], rfl, fun bounded => bounded⟩
  | some queue =>
      obtain ⟨messages, offered⟩ := offerAll_events queue news
      exact ⟨messages, offered, length_offerAll news⟩

theorem tick_lookup (engine : WorldEngine) (ord : Order) (clock : SessionId → UInt64) (session : SessionId) :
    (engine.tick ord clock).sessionQueues.lookup session =
      if session ∈ (engine.applyEffects ord).interest.sessionAnchors
      then ((engine.applyEffects ord).sessionQueues.lookup session).map
        (offerDelta (tickDelta (engine.applyEffects ord) ord clock session))
      else (engine.applyEffects ord).sessionQueues.lookup session := by
  obtain ⟨queues, ticked, lookup⟩ := pushDeltas_spec (engine.applyEffects ord) ord clock
  rw [WorldEngine.tick, ticked]
  exact lookup session

theorem tickFrames_eq (engine : WorldEngine) (ord : Order) (clock : SessionId → UInt64) (session : SessionId) :
    tickFrames engine ord clock session =
      if session ∈ (engine.applyEffects ord).interest.sessionAnchors
      then (((engine.applyEffects ord).sessionQueues.lookup session).map
        fun _ => offerDelta (tickDelta (engine.applyEffects ord) ord clock session) []).getD []
      else [] := by
  obtain ⟨queues, ticked, lookup⟩ := pushDeltas_spec ((engine.applyEffects ord).drainSession session).2 ord clock
  have frames : tickFrames engine ord clock session = (queues.lookup session).getD [] := by
    rw [tickFrames, ticked]
    rfl
  rw [frames, lookup]
  unfold WorldEngine.drainSession
  cases queued : (engine.applyEffects ord).sessionQueues.lookup session with
  | none => simp only [queued, Option.map_none, ite_self, Option.getD_none]
  | some queue =>
      simp only [HashMap.lookup_insert_eq, if_true, Option.map_some]
      split_ifs <;> rfl

/-- A tick has one delta for the session, or nothing. -/
theorem tickFrames_cases (engine : WorldEngine) (ord : Order) (clock : SessionId → UInt64) (session : SessionId) :
    (tickFrames engine ord clock session = [] ∧
      (engine.tick ord clock).sessionQueues.lookup session = (engine.applyEffects ord).sessionQueues.lookup session) ∨
    ∃ delta queue, tickFrames engine ord clock session = [.Delta delta] ∧ delta.tick = engine.tickCount + 1 ∧
      (engine.applyEffects ord).sessionQueues.lookup session = some queue ∧
      (engine.tick ord clock).sessionQueues.lookup session = some (WorldEngine.pushDelta delta queue) := by
  rw [tickFrames_eq, tick_lookup]
  by_cases window : session ∈ (engine.applyEffects ord).interest.sessionAnchors
  · rw [if_pos window, if_pos window]
    cases (engine.applyEffects ord).sessionQueues.lookup session with
    | none => exact .inl ⟨rfl, rfl⟩
    | some queue =>
        rw [Option.map_some, Option.getD_some, Option.map_some]
        unfold offerDelta
        split_ifs
        · exact .inl ⟨rfl, rfl⟩
        · exact .inr ⟨_, queue, rfl, (effected_applyEffects engine ord).tickCount, rfl, rfl⟩
  · rw [if_neg window, if_neg window]
    exact .inl ⟨rfl, rfl⟩

/-- Events are appended, a tick adds a delta, and the queue is emptied by its pump or goes with its session. -/
inductive Flow (call : EngineCall) (tick : UInt64) (queue : SessionQueue) :
    (after pushes drains : List SessionFrame) → Prop
  | told (messages : List String) (room : queue.length ≤ 64 → (queue ++ events messages).length ≤ 64) :
      Flow call tick queue (queue ++ events messages) (events messages) []
  | ticked (messages : List String) (delta : StateDelta) (isTick : call.isTick = true) (now : delta.tick = tick)
      (room : queue.length ≤ 64 → (queue ++ events messages).length ≤ 64) :
      Flow call tick queue (WorldEngine.pushDelta delta (queue ++ events messages))
        (events messages ++ [.Delta delta]) []
  | drained : Flow call tick queue [] [] queue
  | closed : Flow call tick queue [] [] []

variable {now : UInt64}

theorem newFrames_append {messages : List String}
    (appended : queueOf after session = queueOf before session ++ events messages) :
    newFrames before after session = events messages := by
  rw [newFrames, appended, List.drop_left]

theorem Flow.of_told {news : List News} (told : Told news engine after) :
    Flow call now (queueOf engine session) (queueOf after session) (newFrames engine after session) [] := by
  obtain ⟨messages, appended, bounded⟩ := told.queueOf session
  rw [newFrames_append appended]
  rw [appended] at bounded ⊢
  exact .told messages bounded

theorem Flow.of_same (same : after.sessionQueues.lookup session = engine.sessionQueues.lookup session) :
    Flow call now (queueOf engine session) (queueOf after session) (newFrames engine after session) [] := by
  have appended : queueOf after session = queueOf engine session ++ events [] :=
    (queueOf_same same).trans (List.append_nil _).symm
  rw [newFrames_append appended, appended]
  refine .told [] fun bounded => ?_
  rw [events, List.map_nil, List.append_nil]
  exact bounded

theorem newFrames_nil (gone : queueOf after session = []) : newFrames before after session = [] := by
  rw [newFrames, gone, List.drop_nil]

theorem flow_tick (engine : WorldEngine) (ord : Order) (clock : SessionId → UInt64) (session : SessionId) :
    Flow (.tick ord clock) (engine.tickCount + 1) (queueOf engine session) (queueOf (engine.tick ord clock) session)
      (pushes session engine (.tick ord clock)) [] := by
  obtain ⟨news, told⟩ := told_effects (afterDrain engine ord) ord (engine.runtime.tick ord (engine.tickCount + 1)).1
  have told : Told news engine (engine.applyEffects ord) := ⟨told.queues, told.territory⟩
  obtain ⟨messages, appended, bounded⟩ := told.queueOf session
  rw [pushes, newFrames_append appended]
  rw [appended] at bounded
  rcases tickFrames_cases engine ord clock session with ⟨nothing, same⟩ | ⟨delta, queue, one, now, before, after⟩
  · rw [nothing, List.append_nil, queueOf_same same, appended]
    exact .told messages bounded
  · have queued : queueOf (engine.applyEffects ord) session = queue := congrArg (Option.getD · []) before
    have pushed : queueOf (engine.tick ord clock) session = WorldEngine.pushDelta delta queue :=
      congrArg (Option.getD · []) after
    rw [one, pushed, ← queued, appended]
    exact .ticked messages delta rfl now bounded

theorem drainSession_frames (engine : WorldEngine) (session : SessionId) :
    (engine.drainSession session).1 = queueOf engine session := by
  unfold WorldEngine.drainSession queueOf
  cases engine.sessionQueues.lookup session <;> rfl

theorem flow_drain (engine : WorldEngine) (drained session : SessionId) :
    Flow (.drainSession drained) now (queueOf engine session) (queueOf (engine.drainSession drained).2 session)
      (newFrames engine (engine.drainSession drained).2 session) (drains session engine (.drainSession drained)) := by
  obtain ⟨queues, emptied, lookup⟩ := drainSession_spec engine drained
  simp only [drains]
  by_cases mine : drained = session
  · subst mine
    have empty : queueOf (engine.drainSession drained).2 drained = [] := by
      rw [queueOf, emptied]
      change (queues.lookup drained).getD [] = []
      rw [lookup, if_pos rfl]
      cases engine.sessionQueues.lookup drained <;> rfl
    rw [if_pos rfl, drainSession_frames, newFrames_nil empty, empty]
    exact .drained
  · rw [if_neg mine]
    apply Flow.of_same
    rw [emptied]
    exact (lookup session).trans (if_neg fun same => mine same.symm)

theorem flow_call (engine : WorldEngine) (other : registers session call = false) :
    Flow call (engine.tickCount + 1) (queueOf engine session) (queueOf (call.apply engine) session)
      (pushes session engine call) (drains session engine call) := by
  cases call with
  | spawnActorForSession ord spec opened =>
      refine .of_same ((HashMap.lookup_insert_eq _ _ _ _).trans (if_neg fun same => ?_))
      exact of_decide_eq_false other same.symm
  | spawnActorStandalone spec => exact .of_same rfl
  | removeSession closed despawn =>
      have queues : (engine.removeSession closed despawn).sessionQueues.lookup session =
          if session = closed then none else engine.sessionQueues.lookup session := by
        rw [removeSession_queues, HashMap.lookup_erase_eq]
      by_cases mine : session = closed
      · rw [if_pos mine] at queues
        have gone : queueOf (engine.removeSession closed despawn) session = [] := congrArg (Option.getD · []) queues
        change Flow _ _ _ (queueOf (engine.removeSession closed despawn) session)
          (newFrames engine (engine.removeSession closed despawn) session) []
        rw [newFrames_nil gone, gone]
        exact .closed
      · rw [if_neg mine] at queues
        exact .of_same queues
  | despawnActor id => exact .of_same rfl
  | send handle msg => exact .of_same rfl
  | applyDirective directive =>
      cases directive with
      | ForceMove id dest => exact .of_told (told_sendToActor engine id (.Move dest))
      | NarrativeEvent message => exact .of_told (told_broadcastWorldEvent engine message)
      | EconomyAdjust _ _ => exact .of_same rfl
      | FlagActor _ _ => exact .of_same rfl
  | broadcastWorldEvent message => exact .of_told (told_broadcastWorldEvent engine message)
  | drainSession drained => exact flow_drain engine drained session
  | tick ord clock => exact flow_tick engine ord clock session

/-! ## All calls -/

structure Flowing (session : SessionId) (s : Feed) : Prop where
  bounded : (queueOf s.engine session).length ≤ 64
  inOrder : (s.received ++ queueOf s.engine session).Sublist s.pushed
  count : s.engine.tickCount.toNat = s.ticks % 2 ^ 64
  past : s.ticks < 2 ^ 64 → ∀ tick ∈ deltaTicks s.pushed, tick.toNat ≤ s.ticks
  increasing : s.ticks < 2 ^ 64 → (deltaTicks s.pushed).Pairwise (· < ·)

theorem flowing_start (cfg : WorldConfig) (session : SessionId) : Flowing session (start cfg) :=
  ⟨Nat.zero_le 64, .slnil, rfl, fun _ _ member => absurd member List.not_mem_nil, fun _ => .nil⟩

theorem toNat_succ {count : UInt64} {ticks : Nat} (same : count.toNat = ticks % 2 ^ 64) :
    (count + 1).toNat = (ticks + 1) % 2 ^ 64 := by
  rw [UInt64.toNat_add, same, UInt64.toNat_one, Nat.mod_add_mod]

theorem Flowing.count_next (inv : Flowing session s) (call : EngineCall) :
    (s.next session call).engine.tickCount.toNat = (s.next session call).ticks % 2 ^ 64 := by
  change (call.apply s.engine).tickCount.toNat = (if call.isTick then s.ticks + 1 else s.ticks) % 2 ^ 64
  rw [tickCount_call]
  split_ifs
  · exact toNat_succ inv.count
  · exact inv.count

theorem Flowing.flow (inv : Flowing session s) {after new old : List SessionFrame} {ticks : Nat}
    (flow : Flow call (s.engine.tickCount + 1) (queueOf s.engine session) after new old)
    (count : ticks = if call.isTick then s.ticks + 1 else s.ticks) :
    after.length ≤ 64 ∧ ((s.received ++ old) ++ after).Sublist (s.pushed ++ new) ∧
      (ticks < 2 ^ 64 → ∀ tick ∈ deltaTicks (s.pushed ++ new), tick.toNat ≤ ticks) ∧
      (ticks < 2 ^ 64 → (deltaTicks (s.pushed ++ new)).Pairwise (· < ·)) := by
  have older : s.ticks ≤ ticks := by
    rw [count]
    split_ifs <;> omega
  have past (early : ticks < 2 ^ 64) : ∀ tick ∈ deltaTicks s.pushed, tick.toNat ≤ ticks :=
    fun tick member => (inv.past (by omega) tick member).trans older
  have increasing (early : ticks < 2 ^ 64) := inv.increasing (Nat.lt_of_le_of_lt older early)
  cases flow with
  | told messages room =>
      refine ⟨room inv.bounded, ?_, ?_, ?_⟩
      · rw [List.append_nil, ← List.append_assoc]
        exact inv.inOrder.append_right _
      all_goals rw [deltaTicks_append, deltaTicks_events, List.append_nil]
      · exact past
      · exact increasing
  | ticked messages delta isTick now room =>
      have ticked : ticks = s.ticks + 1 := count.trans (if_pos isTick)
      have number : delta.tick.toNat = ticks % 2 ^ 64 := by
        rw [now, ticked]
        exact toNat_succ inv.count
      have ticksOf : deltaTicks (s.pushed ++ (events messages ++ [.Delta delta])) = deltaTicks s.pushed ++ [delta.tick] := by
        rw [deltaTicks_append, deltaTicks_append, deltaTicks_events]
        rfl
      refine ⟨length_pushDelta delta (room inv.bounded), ?_, fun early => ?_, fun early => ?_⟩
      · have kept := (pushDelta_sublist delta (queueOf s.engine session ++ events messages)).append_left s.received
        have before := inv.inOrder.append_right (events messages ++ [.Delta delta])
        simp only [List.append_nil, List.append_assoc] at kept before ⊢
        exact kept.trans before
      · rw [ticksOf]
        refine List.forall_mem_append.mpr ⟨past early, List.forall_mem_singleton.mpr ?_⟩
        rw [number]
        exact Nat.mod_le _ _
      · rw [ticksOf]
        refine List.pairwise_append.mpr ⟨increasing early, List.pairwise_singleton _ _, fun tick member last here => ?_⟩
        rw [List.mem_singleton.mp here, UInt64.lt_iff_toNat_lt, number, Nat.mod_eq_of_lt early, ticked]
        exact Nat.lt_succ_of_le (inv.past (by omega) tick member)
  | drained =>
      rw [List.append_nil, List.append_nil]
      exact ⟨Nat.zero_le 64, inv.inOrder, past, increasing⟩
  | closed =>
      rw [List.append_nil, List.append_nil, List.append_nil]
      exact ⟨Nat.zero_le 64, (List.sublist_append_left _ _).trans inv.inOrder, past, increasing⟩

theorem Flowing.registered (inv : Flowing session s) (registered : registers session call = true) :
    Flowing session (s.next session call) := by
  have count := inv.count_next call
  cases call with
  | spawnActorForSession ord spec opened =>
      cases of_decide_eq_true registered
      have queue : queueOf (s.next session (.spawnActorForSession ord spec session)).engine session = [] :=
        congrArg (Option.getD · []) ((HashMap.lookup_insert_eq _ _ _ _).trans (if_pos rfl))
      have pushed : (s.next session (.spawnActorForSession ord spec session)).pushed = [] := if_pos registered
      have received : (s.next session (.spawnActorForSession ord spec session)).received = [] := if_pos registered
      refine ⟨?_, ?_, count, fun _ => ?_, fun _ => ?_⟩
      · rw [queue]
        exact Nat.zero_le 64
      · rw [queue, pushed, received]
        exact .slnil
      · rw [pushed]
        exact fun _ member => absurd member List.not_mem_nil
      · rw [pushed]
        exact .nil
  | _ => cases registered

theorem Flowing.next (inv : Flowing session s) (call : EngineCall) : Flowing session (s.next session call) := by
  by_cases registered : registers session call = true
  · exact inv.registered registered
  · have other := Bool.eq_false_iff.mpr registered
    have pushed : (s.next session call).pushed = s.pushed ++ pushes session s.engine call := if_neg registered
    have received : (s.next session call).received = s.received ++ drains session s.engine call := if_neg registered
    obtain ⟨bounded, inOrder, past, increasing⟩ := inv.flow (flow_call s.engine other) rfl
    refine ⟨bounded, ?_, inv.count_next call, ?_, ?_⟩
    · rw [pushed, received]
      exact inOrder
    · rw [pushed]
      exact past
    · rw [pushed]
      exact increasing

theorem flowing_run (cfg : WorldConfig) (session : SessionId) (calls : List EngineCall) :
    Flowing session (run session cfg calls) := by
  have later (s : Feed) (inv : Flowing session s) : Flowing session (calls.foldl (Feed.next session) s) := by
    induction calls generalizing s with
    | nil => exact inv
    | cons call rest ih => exact ih _ (inv.next call)
  exact later _ (flowing_start cfg session)

theorem latest_of_pushed {ord : Order} {clock : SessionId → UInt64} {delta : StateDelta}
    (pushed : .Delta delta ∈ pushes session engine (.tick ord clock)) :
    (queueOf (engine.tick ord clock) session).getLast? = some (.Delta delta) := by
  have flow := flow_tick engine ord clock session
  generalize pushes session engine (.tick ord clock) = new at flow pushed
  generalize queueOf (engine.tick ord clock) session = after at flow ⊢
  generalize queueOf engine session = queue at flow
  have noEvent (messages : List String) : SessionFrame.Delta delta ∉ events messages := by
    intro member
    obtain ⟨message, _, same⟩ := List.mem_map.mp member
    cases same
  cases flow with
  | told messages room => exact absurd pushed (noEvent messages)
  | ticked messages delta' isTick now room =>
      rcases List.mem_append.mp pushed with event | here
      · exact absurd event (noEvent messages)
      · cases List.mem_singleton.mp here
        exact getLast_pushDelta delta _
  | drained => cases pushed
  | closed => cases pushed

/-- Whatever is called, and as long as the counter of ticks does not wrap, the queue of a session is disciplined. -/
theorem queue_disciplined (cfg : WorldConfig) (session : SessionId) (calls : List EngineCall) :
    Disciplined session (run session cfg calls) := by
  have inv := flowing_run cfg session calls
  generalize run session cfg calls = s at inv
  refine ⟨inv.bounded, inv.inOrder, fun early => ?_, fun ord clock delta pushed => ?_⟩
  · have received : s.received.Sublist s.pushed := (List.sublist_append_left _ _).trans inv.inOrder
    exact (inv.increasing early).sublist (received.filterMap _)
  · exact latest_of_pushed pushed

/-! ## The counter wraps -/

def joined : EngineCall := .spawnActorForSession .stored (villager 1 ⟨5, 5⟩) ⟨1⟩

def round : List EngineCall := [.tick .stored fun _ => 0, .drainSession ⟨1⟩]

/-- A session joins, and after each tick its pump drains the queue. -/
def rounds (n : Nat) : List EngineCall := joined :: (List.replicate n round).flatten

theorem rounds_succ (n : Nat) : rounds (n + 1) = rounds n ++ round := by
  rw [rounds, List.replicate_succ', List.flatten_append, List.flatten_singleton]
  rfl

theorem run_rounds_succ (n : Nat) :
    run ⟨1⟩ .default (rounds (n + 1)) = round.foldl (Feed.next ⟨1⟩) (run ⟨1⟩ .default (rounds n)) := by
  rw [rounds_succ, run, List.foldl_append]
  rfl

/-- The session of actor 1 is registered, and its actor is live. -/
structure Present (w : World) : Prop where
  steady : Steady .default w
  anchor : (w.engine.interest.sessionAnchors.lookup ⟨1⟩).map Prod.fst = some ⟨1⟩
  live : ⟨1⟩ ∈ w.engine.runtime.actors

theorem Present.tick {w : World} (inv : Present w) (ord : Order) (clock : SessionId → UInt64) :
    Present (w.next (.tick ord clock)) := by
  refine ⟨inv.steady.tick validConfig_default ord clock, ?_, (inv.steady.mem_tick ord clock _).mpr inv.live⟩
  change ((w.engine.tick ord clock).interest.sessionAnchors.lookup ⟨1⟩).map Prod.fst = _
  rw [(finished_tick w.engine ord clock).interest, (effected_applyEffects w.engine ord).anchors]
  exact inv.anchor

theorem Present.drain {w : World} (inv : Present w) (session : SessionId) :
    Present (w.next (.drainSession session)) := by
  have playing : Playing w (.drainSession session) := by
    refine ⟨fun spec spawned => ?_, fun spec spawned => ?_, fun msg sent => ?_, fun id same => ?_⟩
    · cases spawned
    · cases spawned
    · cases sent
    · cases same
  obtain ⟨queues, equation, -⟩ := drainSession_spec w.engine session
  refine ⟨inv.steady.call validConfig_default _ playing, ?_, ?_⟩
  · change ((w.engine.drainSession session).2.interest.sessionAnchors.lookup ⟨1⟩).map Prod.fst = _
    rw [equation]
    exact inv.anchor
  · change _ ∈ (w.engine.drainSession session).2.runtime.actors
    rw [equation]
    exact inv.live

theorem Present.pushes {w : World} (inv : Present w) (ord : Order) (clock : SessionId → UInt64) :
    ∃ delta, delta.tick = w.engine.tickCount + 1 ∧ .Delta delta ∈ pushes ⟨1⟩ w.engine (.tick ord clock) := by
  have effected := effected_applyEffects w.engine ord
  have anchor := (effected.anchors ⟨1⟩).trans inv.anchor
  obtain ⟨⟨id, cell⟩, window, same⟩ := Option.map_eq_some_iff.mp anchor
  cases same
  obtain ⟨actor, before⟩ := HashMap.lookup_of_mem inv.live
  have live := inv.steady.lookup_applyEffects ord ⟨1⟩
  rw [before, Option.map_some] at live
  have member := HashMap.mem_of_lookup window
  obtain ⟨queue, queued⟩ := HashMap.lookup_of_mem (((inv.steady.toSound.applyEffects ord).queued ⟨1⟩).mp member)
  have worthy := inv.steady.worthy validConfig_default clock window live
  refine ⟨tickDelta (w.engine.applyEffects ord) ord clock ⟨1⟩, effected.tickCount, List.mem_append_right _ ?_⟩
  rw [tickFrames_eq, if_pos member, queued, Option.map_some, Option.getD_some, offerDelta, if_neg worthy]
  exact List.mem_singleton_self _

theorem present_rounds (n : Nat) :
    ∃ w, Present w ∧ w.engine = (run ⟨1⟩ .default (rounds n)).engine ∧ (run ⟨1⟩ .default (rounds n)).ticks = n := by
  induction n with
  | zero =>
      refine ⟨(World.start .default).next joined, ⟨?_, ?_, ?_⟩, rfl, rfl⟩
      · refine (steady_start .default).call validConfig_default joined ⟨?_, ?_, ?_, ?_⟩
        · exact fun _ _ => List.not_mem_nil
        · rintro spec ⟨⟩
          decide +kernel
        · rintro msg ⟨⟩
        · rintro id ⟨⟩
      · decide +kernel
      · decide +kernel
  | succ n ih =>
      obtain ⟨w, present, same, count⟩ := ih
      refine ⟨_, (present.tick .stored fun _ => 0).drain ⟨1⟩, ?_, ?_⟩
      · rw [run_rounds_succ]
        change ((w.engine.tick .stored fun _ => 0).drainSession ⟨1⟩).2 = _
        rw [same]
        rfl
      · rw [run_rounds_succ]
        exact congrArg (· + 1) count

/-- Each round brings a delta with the number of its tick. -/
theorem received_round (n : Nat) :
    ∃ frames delta, (run ⟨1⟩ .default (rounds (n + 1))).received = (run ⟨1⟩ .default (rounds n)).received ++ frames ∧
      .Delta delta ∈ frames ∧ delta.tick.toNat = (n + 1) % 2 ^ 64 := by
  obtain ⟨w, present, same, count⟩ := present_rounds n
  obtain ⟨delta, number, pushed⟩ := present.pushes .stored fun _ => 0
  have flowing := flowing_run .default ⟨1⟩ (rounds n)
  rw [same] at pushed number
  have queue := latest_of_pushed pushed
  refine ⟨queueOf ((run ⟨1⟩ .default (rounds n)).engine.tick .stored fun _ => 0) ⟨1⟩, delta, ?_,
    List.mem_of_getLast? queue, ?_⟩
  · rw [run_rounds_succ]
    change ((run ⟨1⟩ .default (rounds n)).received ++ []) ++ (WorldEngine.drainSession _ ⟨1⟩).1 = _
    rw [List.append_nil, drainSession_frames]
    rfl
  · have counted := toNat_succ flowing.count
    rw [count] at counted
    rw [number, counted]

-- the last tick before the counter wraps, and the one after it
theorem ticks_wrap :
    ¬∀ calls, (deltaTicks (run ⟨1⟩ .default calls).received).Pairwise (· < ·) := by
  intro claim
  obtain ⟨early, first, before, member, number⟩ := received_round (2 ^ 64 - 2)
  obtain ⟨late, second, after, member', number'⟩ := received_round (2 ^ 64 - 2 + 1)
  have increasing := claim (rounds (2 ^ 64 - 2 + 1 + 1))
  rw [after, before, deltaTicks_append, List.pairwise_append] at increasing
  have less := increasing.2.2 first.tick (List.mem_filterMap.mpr ⟨.Delta first, List.mem_append_right _ member, rfl⟩)
    second.tick (List.mem_filterMap.mpr ⟨.Delta second, member', rfl⟩)
  rw [UInt64.lt_iff_toNat_lt, number, number'] at less
  omega

end LiveWorld.Proof.Engine

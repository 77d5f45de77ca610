import LiveWorld.Proof.Shard.Runs
import LiveWorld.Spec.Twin

/-!
# Directives on one engine and on its shards

A forced move is tried on one shard after the other, so it ends up in one inbox. A narrative event ends up in no
queue at all.
-/

namespace LiveWorld.Proof.Shard
open HashTable Spec Proof.Runtime Proof.Engine
variable {cfg : WorldConfig} {shardCount : Nat} {atLeastOne : shardCount ≥ 1} {t : Twin shardCount} {one : WorldEngine}

/-! ## The two engines of a twin -/

theorem next_single (t : Twin shardCount) (call : ApiCall shardCount) :
    ((t.next call).single = t.single ∧ call.isTick = false) ∨
      ∃ one : EngineCall, (t.next call).single = one.apply t.single ∧ one.sent = call.sent ∧ one.isTick = call.isTick := by
  cases call with
  | spawnActorForSession ord shardOrd spec session =>
      exact .inr ⟨.spawnActorForSession ord spec session, rfl, rfl, rfl⟩
  | spawnActorStandalone spec => exact .inr ⟨.spawnActorStandalone spec, rfl, rfl, rfl⟩
  | removeSession session despawn => exact .inr ⟨.removeSession session despawn, rfl, rfl, rfl⟩
  | send spawn msg =>
      simp only [Twin.next]
      cases t.handles[spawn]? with
      | none => exact .inl ⟨rfl, rfl⟩
      | some pair => exact .inr ⟨.send pair.1 msg, rfl, rfl, rfl⟩
  | applyDirective directive =>
      refine .inr ⟨.applyDirective directive, rfl, ?_, rfl⟩
      cases directive <;> rfl
  | drainSession session => exact .inr ⟨.drainSession session, rfl, rfl, rfl⟩
  | tick ord clock shardOrd shardClock => exact .inr ⟨.tick ord clock, rfl, rfl, rfl⟩

theorem next_sharded (t : Twin shardCount) (call : ApiCall shardCount) :
    ((t.next call).sharded = t.sharded ∧ call.isTick = false) ∨
      ∃ all : ShardCall shardCount, (t.next call).sharded = all.apply t.sharded ∧ all.sent = call.sent ∧
        all.isTick = call.isTick := by
  cases call with
  | spawnActorForSession ord shardOrd spec session =>
      exact .inr ⟨.spawnActorForSession shardOrd spec session, rfl, rfl, rfl⟩
  | spawnActorStandalone spec => exact .inr ⟨.spawnActorStandalone spec, rfl, rfl, rfl⟩
  | removeSession session despawn => exact .inr ⟨.removeSession session despawn, rfl, rfl, rfl⟩
  | send spawn msg =>
      simp only [Twin.next]
      cases t.handles[spawn]? with
      | none => exact .inl ⟨rfl, rfl⟩
      | some pair => exact .inr ⟨.send pair.2 msg, rfl, rfl, rfl⟩
  | applyDirective directive =>
      refine .inr ⟨.applyDirective directive, rfl, ?_, rfl⟩
      cases directive <;> rfl
  | drainSession session => exact .inr ⟨.drainSession session, rfl, rfl, rfl⟩
  | tick ord clock shardOrd shardClock => exact .inr ⟨.tick shardOrd shardClock, rfl, rfl, rfl⟩

structure TwinWired (t : Twin shardCount) : Prop where
  single : Wired t.single.runtime
  shards : EveryShard (fun one => Wired one.runtime) t.sharded

theorem TwinWired.next (inv : TwinWired t) (call : ApiCall shardCount) : TwinWired (t.next call) := by
  constructor
  · rcases next_single t call with ⟨same, -⟩ | ⟨one, same, -⟩
    · rw [same]
      exact inv.single
    · rw [same]
      exact wired_call one inv.single
  · rcases next_sharded t call with ⟨same, -⟩ | ⟨all, same, -⟩
    · rw [same]
      exact inv.shards
    · rw [same]
      exact everyShard_apply all inv.shards fun shard one _ => wired_call one

theorem twinWired_start (cfg : WorldConfig) (atLeastOne : shardCount ≥ 1) : TwinWired (Twin.start cfg atLeastOne) :=
  ⟨(consistent_new cfg).toWired, fun _ => (consistent_new cfg).toWired⟩

theorem twinWired_reachable {allowed : Twin shardCount → ApiCall shardCount → Prop}
    (reachable : TwinReachable cfg atLeastOne allowed t) : TwinWired t := by
  refine reachable.invariant ?_ ?_
  · intro t first
    subst first
    exact twinWired_start cfg atLeastOne
  · intro t call after inv _ moved
    cases moved
    exact inv.next call

/-! ## One message to one actor -/

theorem sendToActor_taken (inv : Wired one.runtime) (id : ActorId) (msg : ActorMessage) :
    (one.sendToActor id msg).1 = true ↔ HasRoom one id := by
  unfold WorldEngine.sendToActor HasRoom
  cases held : one.runtime.handle id with
  | none =>
      simp only [Bool.false_eq_true, false_iff, not_exists, not_and]
      intro actor live
      obtain ⟨handle, found⟩ := HashMap.lookup_of_mem ((inv.sameKeys id).mp (HashMap.mem_of_lookup live))
      rw [ActorRuntime.handle, found] at held
      cases held
  | some handle =>
      obtain ⟨actor, live⟩ := HashMap.lookup_of_mem ((inv.sameKeys id).mpr (HashMap.mem_of_lookup held))
      have feeds := inv.feeds id actor handle live held
      have sent : (one.send handle msg).1 = true ↔
          (one.runtime.inboxes.pending handle.sender).length < queueSize - 1 := by
        simp only [WorldEngine.send, ActorRuntime.send, ActorHandle.send]
        split_ifs with room
        · simp [room]
        · simp [room]
      refine sent.trans ?_
      rw [feeds]
      constructor
      · exact fun room => ⟨actor, live, room⟩
      · intro given
        obtain ⟨other, there, room⟩ := given
        rw [live] at there
        rw [Option.some.inj there]
        exact room

theorem newMessages_sendToActor (inv : Wired one.runtime) (id other : ActorId) (msg : ActorMessage) :
    newMessages one (one.sendToActor id msg).2 other =
      if other = id ∧ (one.sendToActor id msg).1 = true then [msg] else [] := by
  have taken := sendToActor_taken inv id msg
  simp only [newMessages, inboxOf, (effected_sendToActor one id msg).actors]
  cases live : one.runtime.actors.lookup other with
  | none =>
      rw [if_neg]
      · rfl
      · rw [taken]
        rintro ⟨rfl, actor, found, -⟩
        rw [live] at found
        cases found
  | some actor =>
      simp only [Option.map_some, Option.getD_some, pending_sendToActor inv live]
      have room : id = other ∧ (one.runtime.inboxes.pending actor.inbox).length < queueSize - 1 ↔
          other = id ∧ (one.sendToActor id msg).1 = true := by
        rw [taken]
        constructor
        · rintro ⟨rfl, room⟩
          exact ⟨rfl, actor, live, room⟩
        · rintro ⟨rfl, found, there, room⟩
          rw [live] at there
          rw [Option.some.inj there]
          exact ⟨rfl, room⟩
      simp only [room]
      split_ifs
      · exact List.drop_left
      · exact List.drop_length

/-! ## The directives -/

theorem flatMap_none {α β : Type*} {l : List α} {f : α → List β} (none : ∀ a ∈ l, f a = []) : l.flatMap f = [] :=
  List.flatMap_eq_nil_iff.mpr none

theorem flatMap_only {α β : Type*} {l : List α} {f : α → List β} {a : α} (distinct : l.Nodup) (member : a ∈ l)
    (none : ∀ b ∈ l, b ≠ a → f b = []) : l.flatMap f = f a := by
  obtain ⟨front, back, rfl⟩ := List.append_of_mem member
  have apart := List.nodup_middle.mp distinct
  rw [List.nodup_cons, List.mem_append, not_or] at apart
  rw [List.flatMap_append, List.flatMap_cons, flatMap_none, flatMap_none, List.nil_append, List.append_nil]
  · exact fun b back => none b (List.mem_append_right _ (List.mem_cons_of_mem _ back)) fun same => apart.1.2 (same ▸ back)
  · exact fun b front => none b (List.mem_append_left _ front) fun same => apart.1.1 (same ▸ front)

theorem newFrames_same {after : WorldEngine} (same : after.sessionQueues = one.sessionQueues) (session : SessionId) :
    newFrames one after session = [] := by
  rw [newFrames, queueOf, queueOf, same]
  exact List.drop_length

theorem newMessages_same {after : WorldEngine} (same : after.runtime = one.runtime) (id : ActorId) :
    newMessages one after id = [] := by
  rw [newMessages, inboxOf, inboxOf, same]
  exact List.drop_length

theorem sendToActor_queues (one : WorldEngine) (id : ActorId) (msg : ActorMessage) :
    (one.sendToActor id msg).2.sessionQueues = one.sessionQueues := by
  unfold WorldEngine.sendToActor
  cases one.runtime.handle id <;> rfl

theorem sendToAny_queues (engine : ShardedEngine shardCount) (id : ActorId) (msg : ActorMessage)
    (order : List (Fin shardCount)) (shard : Fin shardCount) :
    ((engine.sendToAny id msg order).shards shard).sessionQueues = (engine.shards shard).sessionQueues := by
  rw [sendToAny_eq]
  cases order.find? fun idx => ((engine.shards idx).sendToActor id msg).1 with
  | none => rfl
  | some idx =>
      simp only [setShard_shards]
      split_ifs with here
      · rw [here, sendToActor_queues]
      · rfl

-- the first shard with room for the message takes it
theorem newMessages_sendToAny {engine : ShardedEngine shardCount} (inv : EveryShard (fun one => Wired one.runtime) engine)
    (id other : ActorId) (msg : ActorMessage) :
    ((List.finRange shardCount).flatMap fun shard =>
      newMessages (engine.shards shard) ((engine.sendToAny id msg (List.finRange shardCount)).shards shard) other) =
      if other = id ∧ ∃ shard, ((engine.shards shard).sendToActor id msg).1 = true then [msg] else [] := by
  rw [sendToAny_eq]
  cases found : (List.finRange shardCount).find? fun idx => ((engine.shards idx).sendToActor id msg).1 with
  | none =>
      have nobody := List.find?_eq_none.mp found
      rw [if_neg fun both => both.2.elim fun shard taken => nobody shard (List.mem_finRange shard) taken]
      exact flatMap_none fun shard _ => newMessages_same rfl other
  | some idx =>
      have taken := List.find?_some found
      rw [flatMap_only (List.nodup_finRange shardCount) (List.mem_finRange idx)]
      · rw [setShard_shards, if_pos rfl, newMessages_sendToActor (inv idx)]
        by_cases mine : other = id
        · rw [if_pos ⟨mine, taken⟩, if_pos ⟨mine, idx, taken⟩]
        · rw [if_neg fun both => mine both.1, if_neg fun both => mine both.1]
      · intro shard _ elsewhere
        rw [setShard_shards, if_neg elsewhere]
        exact newMessages_same rfl other

theorem forceMove_agrees (inv : TwinWired t) (id : ActorId) (dest : Position) :
    DirectiveAgrees t (.ForceMove id dest) ↔ SameRoom t (.ForceMove id dest) := by
  have room : (∃ shard, ((t.sharded.shards shard).sendToActor id (.Move dest)).1 = true) ↔
      ∃ shard, HasRoom (t.sharded.shards shard) id :=
    exists_congr fun shard => sendToActor_taken (inv.shards shard) id (.Move dest)
  have single := sendToActor_taken inv.single id (.Move dest)
  have decided (other : ActorId) : newMessages t.single (t.single.applyDirective (.ForceMove id dest)) other =
      (List.finRange shardCount).flatMap (fun shard => newMessages (t.sharded.shards shard)
        ((t.sharded.applyDirective (.ForceMove id dest)).shards shard) other) ↔
      (other = id → SameRoom t (.ForceMove id dest)) := by
    simp only [WorldEngine.applyDirective, ShardedEngine.applyDirective, SameRoom, ← single, ← room]
    rw [newMessages_sendToActor inv.single, newMessages_sendToAny inv.shards]
    by_cases mine : other = id
    · simp only [mine, true_and, forall_const]
      split_ifs with here there there
      · exact iff_of_true rfl (iff_of_true here there)
      · exact iff_of_false (fun absurd => absurd) fun same => there (same.mp here)
      · exact iff_of_false (fun absurd => absurd) fun same => here (same.mpr there)
      · exact iff_of_true rfl (iff_of_false here there)
    · simp only [mine, false_and, if_false, false_implies]
  constructor
  · exact fun agrees => (decided id).mp (agrees.messages id) rfl
  · intro same
    refine ⟨fun session => ?_, fun other => (decided other).mpr fun _ => same, ?_⟩
    · exact (newFrames_same (sendToActor_queues _ _ _) session).trans
        (flatMap_none fun shard _ => newFrames_same (sendToAny_queues _ _ _ _ shard) session).symm
    · intro message other
      cases other

theorem newFrames_broadcast (one : WorldEngine) (message : String) (session : SessionId) :
    newFrames one (one.broadcastWorldEvent message) session = [] ↔
      ∀ queue, one.sessionQueues.lookup session = some queue → 64 ≤ queue.length := by
  simp only [newFrames, queueOf, WorldEngine.broadcastWorldEvent, HashMap.lookup_mapValues]
  cases one.sessionQueues.lookup session with
  | none => simp
  | some queue =>
      simp only [Option.map_some, Option.getD_some, WorldEngine.offerEvent, Option.some.injEq, forall_eq']
      split_ifs with room
      · rw [List.drop_left]
        exact iff_of_false (List.cons_ne_nil _ _) (Nat.not_le.mpr room)
      · rw [List.drop_length]
        exact iff_of_true rfl (Nat.le_of_not_lt room)

theorem narrativeEvent_agrees (message : String) :
    DirectiveAgrees t (.NarrativeEvent message) ↔ SameRoom t (.NarrativeEvent message) := by
  have nothing (session : SessionId) : ((List.finRange shardCount).flatMap fun shard =>
      newFrames (t.sharded.shards shard) ((t.sharded.applyDirective (.NarrativeEvent message)).shards shard) session) = [] :=
    flatMap_none fun shard _ => newFrames_same rfl session
  constructor
  · intro agrees
    constructor
    · intro session
      exact (newFrames_broadcast t.single message session).mp ((agrees.frames session).trans (nothing session))
    · intro shard session queue found
      by_contra room
      have appended := agrees.narrated message rfl shard session queue found (Nat.not_le.mp room)
      have same : some queue = some (queue ++ [.WorldEvent message]) := found.symm.trans appended
      simp at same
  · intro full
    refine ⟨fun session => ?_, fun id => ?_, ?_⟩
    · rw [nothing]
      exact (newFrames_broadcast t.single message session).mpr (full.1 session)
    · exact (newMessages_same rfl id).trans (flatMap_none fun shard _ => newMessages_same rfl id).symm
    · intro other _ shard session queue found room
      exact absurd (full.2 shard session queue found) (Nat.not_le.mpr room)

/-- A directive does the same to one engine and to its shards iff both have the same room for it. -/
theorem directive_agrees_iff (cfg : WorldConfig) (atLeastOne : shardCount ≥ 1) (t : Twin shardCount)
    (reachable : TwinReachable cfg atLeastOne (fun _ _ => True) t) (directive : WorldDirective) :
    DirectiveAgrees t directive ↔ SameRoom t directive := by
  have silent (quiet : t.single.applyDirective directive = t.single)
      (quiet' : t.sharded.applyDirective directive = t.sharded) (none : ∀ message, directive ≠ .NarrativeEvent message) :
      DirectiveAgrees t directive := by
    refine ⟨fun session => ?_, fun id => ?_, fun message same => absurd same (none message)⟩
    · rw [quiet, quiet']
      exact (newFrames_same rfl session).trans (flatMap_none fun shard _ => newFrames_same rfl session).symm
    · rw [quiet, quiet']
      exact (newMessages_same rfl id).trans (flatMap_none fun shard _ => newMessages_same rfl id).symm
  cases directive with
  | ForceMove id dest => exact forceMove_agrees (twinWired_reachable reachable) id dest
  | NarrativeEvent message => exact narrativeEvent_agrees message
  | FlagActor id reason => exact iff_of_true (silent rfl rfl fun _ same => by cases same) trivial
  | EconomyAdjust resource delta => exact iff_of_true (silent rfl rfl fun _ same => by cases same) trivial

def arrival : Twin 2 :=
  (Twin.start .default (Nat.le_succ 1)).next (.spawnActorForSession .stored .stored (villager 1 ⟨100, 500⟩) ⟨1⟩)

theorem arrival_reachable : TwinReachable .default (by decide) (fun _ _ => True) arrival :=
  .step (.start rfl) trivial rfl

theorem directive_agrees_arrival : DirectiveAgrees arrival (.ForceMove ⟨1⟩ ⟨9000, 500⟩) := by
  have wired := twinWired_reachable arrival_reachable
  refine (directive_agrees_iff .default (by decide) arrival arrival_reachable _).mpr (iff_of_true ?_ ⟨0, ?_⟩)
  · exact (sendToActor_taken wired.single ⟨1⟩ (.Move ⟨9000, 500⟩)).mp (by decide +kernel)
  · exact (sendToActor_taken (wired.shards 0) ⟨1⟩ (.Move ⟨9000, 500⟩)).mp (by decide +kernel)

theorem narrative_event_lost :
    ¬ ∀ t : Twin 2, TwinReachable .default (by decide) (fun _ _ => True) t → ∀ directive, DirectiveAgrees t directive := by
  intro claimed
  have full := (narrativeEvent_agrees "Dawn breaks").mp (claimed arrival arrival_reachable _)
  have queued : arrival.single.sessionQueues.lookup ⟨1⟩ = some [] := by decide
  exact absurd (full.1 ⟨1⟩ [] queued) (by decide)

end LiveWorld.Proof.Shard

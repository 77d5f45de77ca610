import LiveWorld.Proof.Engine.Sound
import LiveWorld.Spec.Ghosts

/-!
# What a client believes

Removals are sent once. So after handling what is queued, the client has nobody who was not live at
the last tick, as long as no frame with a removal for it is dropped.
-/

namespace LiveWorld.Proof.Engine
open HashTable Spec Proof.Runtime
variable {cfg : WorldConfig} {session : SessionId} {s : Watched} {client other : ClientMap}

/-! ## The client's map -/

theorem mem_handleMsg_delta (client : ClientMap) (delta : StateDelta) (id : ActorId) :
    id ∈ Client.handleMsg client (.Delta delta) ↔
      (id ∈ client ∨ ∃ a ∈ delta.updates, a.id = id) ∧ id ∉ delta.removed := by
  simp only [Client.handleMsg]
  rw [HashMap.mem_eraseAll, HashMap.mem_insertAll]

theorem handleMsg_mono (smaller : ∀ id ∈ client, id ∈ other) (frame : SessionFrame) :
    ∀ id ∈ Client.handleMsg client frame, id ∈ Client.handleMsg other frame := by
  intro id
  cases frame with
  | WorldEvent message => exact smaller id
  | Delta delta =>
      rw [mem_handleMsg_delta, mem_handleMsg_delta]
      intro both
      exact ⟨both.1.imp_left (smaller id), both.2⟩

theorem handleAll_mono (smaller : ∀ id ∈ client, id ∈ other) (frames : List SessionFrame) :
    ∀ id ∈ Client.handleAll client frames, id ∈ Client.handleAll other frames := by
  induction frames generalizing client other with
  | nil => exact smaller
  | cons frame rest ih => exact ih (handleMsg_mono smaller frame)

theorem handleAll_append (client : ClientMap) (early late : List SessionFrame) :
    Client.handleAll client (early ++ late) = Client.handleAll (Client.handleAll client early) late :=
  List.foldl_append

theorem handleAll_events (client : ClientMap) (messages : List String) :
    Client.handleAll client (messages.map SessionFrame.WorldEvent) = client := by
  induction messages with
  | nil => rfl
  | cons message rest ih => exact ih

-- without its oldest frame the queue can only add less, unless the frame removes somebody
theorem handleAll_tail {queue : SessionQueue}
    (keeps : ∀ delta rest, queue = .Delta delta :: rest → ∀ id ∈ delta.removed, id ∉ client) :
    ∀ id ∈ Client.handleAll client queue.tail, id ∈ Client.handleAll client queue := by
  cases queue with
  | nil => exact fun _ member => member
  | cons frame rest =>
      apply handleAll_mono
      intro id member
      cases frame with
      | WorldEvent message => exact member
      | Delta delta =>
          rw [mem_handleMsg_delta]
          exact ⟨.inl member, fun removed => keeps delta rest rfl id removed member⟩

/-! ## One tick -/

theorem mem_tickDelta_updates {engine : WorldEngine} {ord : Order} {clock : SessionId → UInt64} {a : ActorState}
    (member : a ∈ (tickDelta engine ord clock session).updates) : a ∈ engine.runtime.snapshotAll ord := by
  have changed : a ∈ (tickDiff engine ord).1 := (List.mem_filter.mp member).1
  obtain ⟨entry, visited, kept⟩ := List.mem_filterMap.mp changed
  have stored := HashMap.mem_entries_iff.mp (ord.mem_visit.mp visited)
  have same : entry.2 = a := by
    cases found : (HashMap.collect ActorState.id engine.prevSnapshot).lookup entry.1 with
    | none => simpa [found] using kept
    | some prev =>
        rw [found] at kept
        simp only [Option.ite_none_right_eq_some, Option.some.injEq] at kept
        exact kept.2
  rw [← same]
  exact (HashMap.lookup_collect_some stored).1

theorem mem_tickDelta_removed {engine : WorldEngine} {ord : Order} (clock : SessionId → UInt64) (session : SessionId)
    {id : ActorId} (before : ∃ a ∈ engine.prevSnapshot, a.id = id)
    (gone : ¬∃ a ∈ engine.runtime.snapshotAll ord, a.id = id) :
    id ∈ (tickDelta engine ord clock session).removed :=
  List.mem_append_left _ (diffStates_removed.mpr ⟨before, gone⟩)

theorem covered_push {engine : WorldEngine} {ord : Order} {clock : SessionId → UInt64} {queue : SessionQueue}
    (covered : ∀ id ∈ Client.handleAll client queue, ∃ a ∈ engine.prevSnapshot, a.id = id) :
    ∀ id ∈ Client.handleAll client (queue ++ [.Delta (tickDelta engine ord clock session)]),
      ∃ a ∈ engine.runtime.snapshotAll ord, a.id = id := by
  intro id
  rw [handleAll_append, Client.handleAll, List.foldl_cons, List.foldl_nil, mem_handleMsg_delta]
  intro both
  by_contra gone
  cases both.1 with
  | inl kept => exact both.2 (mem_tickDelta_removed clock session (covered id kept) gone)
  | inr updated =>
      obtain ⟨a, member, same⟩ := updated
      exact gone ⟨a, mem_tickDelta_updates member, same⟩

theorem covered_offerDelta {engine : WorldEngine} {ord : Order} {clock : SessionId → UInt64} {queue : SessionQueue}
    (covered : ∀ id ∈ Client.handleAll client queue, ∃ a ∈ engine.prevSnapshot, a.id = id)
    (keeps : ∀ delta rest, queue = .Delta delta :: rest → 32 ≤ queue.length → ∀ id ∈ delta.removed, id ∉ client) :
    ∀ id ∈ Client.handleAll client (offerDelta (tickDelta engine ord clock session) queue),
      ∃ a ∈ engine.runtime.snapshotAll ord, a.id = id := by
  unfold offerDelta WorldEngine.pushDelta
  split_ifs with worthless full
  · intro id member
    by_contra gone
    have removed := mem_tickDelta_removed clock session (covered id member) gone
    rw [worthless.2] at removed
    cases removed
  · apply covered_push
    intro id member
    exact covered id (handleAll_tail (fun delta rest same => keeps delta rest same full) id member)
  · exact covered_push covered

/-! ## Whole runs -/

/-- Once it has handled what is queued, the client has nobody who is not in the last snapshot. -/
def Covered (session : SessionId) (client : ClientMap) (engine : WorldEngine) : Prop :=
  ∀ queue, engine.sessionQueues.lookup session = some queue →
    ∀ id ∈ Client.handleAll client queue, ∃ a ∈ engine.prevSnapshot, a.id = id

structure Tracked (cfg : WorldConfig) (session : SessionId) (s : Watched) : Prop
    extends Sound cfg s.world.actorIds s.world.engine where
  covered : Covered session s.client s.world.engine

theorem Covered.effected {allowed : ActorMessage → Prop} {engine after : WorldEngine}
    (covered : Covered session client engine) (effected : Effected allowed engine after) :
    Covered session client after := by
  intro queue found id member
  obtain ⟨messages, appended⟩ := effected.queues session
  rw [found, eq_comm, Option.map_eq_some_iff] at appended
  obtain ⟨before, there, rfl⟩ := appended
  rw [handleAll_append, handleAll_events] at member
  rw [effected.prevSnapshot]
  exact covered before there id member

theorem Tracked.covered_tick (inv : Tracked cfg session s) {ord : Order} {clock : SessionId → UInt64}
    (keeps : s.KeepsRemovals session (.tick ord clock)) :
    ∀ queue, (s.world.engine.tick ord clock).sessionQueues.lookup session = some queue →
      ∀ id ∈ Client.handleAll s.client queue, id ∈ (s.world.engine.tick ord clock).runtime.actors := by
  have effected := effected_applyEffects s.world.engine ord
  have sound := inv.toSound.applyEffects ord
  -- the drain of the inboxes touches neither the queues nor the previous snapshot
  have drained : Covered session s.client (afterDrain s.world.engine ord) := inv.covered
  obtain ⟨queues, pushed, lookup⟩ := pushDeltas_spec (s.world.engine.applyEffects ord) ord clock
  intro queue found id member
  rw [WorldEngine.tick, pushed] at found ⊢
  change queues.lookup session = _ at found
  change id ∈ (s.world.engine.applyEffects ord).runtime.actors
  have before : session ∈ (s.world.engine.applyEffects ord).interest.sessionAnchors := by
    rw [sound.queued, ← AList.lookup_isSome]
    rw [lookup] at found
    split_ifs at found with registered
    · rw [← Option.isSome_map, found]
      rfl
    · rw [found]
      rfl
  rw [lookup, if_pos before, Option.map_eq_some_iff] at found
  obtain ⟨old, there, rfl⟩ := found
  obtain ⟨a, current, rfl⟩ := covered_offerDelta ((drained.effected effected) old there)
    (fun delta rest same full => keeps delta rest (same ▸ there) (same ▸ full)) id member
  obtain ⟨key, actor, live, rfl⟩ := mem_snapshot.mp current
  rw [(sound.consistent.keyed key actor live).2]
  exact HashMap.mem_of_lookup live

theorem Tracked.tick (inv : Tracked cfg session s) {ord : Order} {clock : SessionId → UInt64}
    (keeps : s.KeepsRemovals session (.tick ord clock)) :
    Covered session s.client (s.world.engine.tick ord clock) := by
  have finished := finished_tick s.world.engine ord clock
  intro queue found id member
  obtain ⟨actor, live⟩ := HashMap.lookup_of_mem (inv.covered_tick keeps queue found id member)
  rw [finished.runtime] at live
  rw [finished.prevSnapshot]
  exact ⟨actor.state, mem_snapshot.mpr ⟨id, actor, live, rfl⟩,
    ((inv.toSound.applyEffects ord).consistent.keyed id actor live).2⟩

theorem Tracked.drain (inv : Tracked cfg session s) (drained : SessionId) :
    Covered session (s.clientAfter session (.drainSession drained)) (s.world.engine.drainSession drained).2 := by
  by_cases mine : drained = session
  · subst mine
    simp only [Watched.clientAfter, if_true, WorldEngine.drainSession]
    cases found : s.world.engine.sessionQueues.lookup drained with
    | none =>
        intro queue there
        rw [found] at there
        cases there
    | some queue =>
        intro left there
        rw [AList.lookup_insert, Option.some.injEq] at there
        subst there
        exact inv.covered queue found
  · simp only [Watched.clientAfter, if_neg mine, WorldEngine.drainSession]
    cases found : s.world.engine.sessionQueues.lookup drained with
    | none => exact inv.covered
    | some queue =>
        intro left there
        rw [AList.lookup_insert_ne (fun same => mine same.symm)] at there
        exact inv.covered left there

theorem Tracked.register (inv : Tracked cfg session s) (ord : Order) (spec : ActorSpec) (opened : SessionId)
    (keeps : s.KeepsRemovals session (.spawnActorForSession ord spec opened)) :
    Covered session s.client (s.world.engine.spawnActorForSession ord spec opened).2 := by
  intro queue found
  change (s.world.engine.sessionQueues.insert opened []).lookup session = _ at found
  rw [HashMap.lookup_insert_eq] at found
  by_cases mine : opened = session
  · rw [if_pos mine.symm, Option.some.injEq] at found
    subst found
    exact keeps mine
  · rw [if_neg fun same => mine same.symm] at found
    exact inv.covered queue found

theorem Tracked.removeSession (inv : Tracked cfg session s) (closed : SessionId) (despawn : Bool) :
    Covered session s.client (s.world.engine.removeSession closed despawn) := by
  have rest : ∀ left : WorldEngine, Covered session s.client left → Covered session s.client { left with
      sessionQueues := left.sessionQueues.erase closed
      interest := left.interest.unregister closed } := by
    intro left covered queue found
    rw [HashMap.lookup_erase_eq] at found
    split_ifs at found
    exact covered queue found
  unfold WorldEngine.removeSession
  apply rest
  cases despawn with
  | false => exact inv.covered
  | true =>
      cases owner : s.world.engine.sessionToActor.lookup closed with
      | none => exact inv.covered
      | some id => exact inv.covered

theorem Tracked.call (inv : Tracked cfg session s) (call : EngineCall) (running : Running s.world call)
    (keeps : s.KeepsRemovals session call) : Tracked cfg session (s.next session call) := by
  refine ⟨inv.toSound.call call running.1 running.2, ?_⟩
  cases call with
  | spawnActorForSession ord spec opened => exact inv.register ord spec opened keeps
  | spawnActorStandalone spec => exact inv.covered
  | removeSession closed despawn => exact inv.removeSession closed despawn
  | despawnActor gone => exact inv.covered
  | send handle msg => exact inv.covered.effected (effected_send s.world.engine handle msg)
  | applyDirective directive => exact inv.covered.effected (effected_applyDirective s.world.engine directive)
  | broadcastWorldEvent message =>
      have quiet : Effected Combat s.world.engine (s.world.engine.broadcastWorldEvent message) :=
        effected_broadcastWorldEvent s.world.engine message
      exact inv.covered.effected quiet
  | drainSession drained => exact inv.drain drained
  | tick ord clock => exact inv.tick keeps

end LiveWorld.Proof.Engine

import LiveWorld.Spec.Sync

/-!
# What the payloads carry from one pod to another

The payload of an iteration is the difference between two snapshots, so the subscriber's entry for an
actor is a function of its earlier entry and of the two snapshots. Entries that are there already stay.
-/

namespace LiveWorld.Proof.Sync
open HashTable Spec
variable {ord : Order} {podId : String} {theirs : ActorId → Prop} {prev current snap : SharedSnapshot} {id : ActorId}

/-! ## Payloads -/

def updatesOf (ord : Order) (prev current : SharedSnapshot) : List ActorState :=
  (current.values ord).filter fun s => decide (prev.lookup s.id ≠ some s)

def removedOf (ord : Order) (prev current : SharedSnapshot) : List ActorId :=
  (prev.keys ord).filter fun id => decide (id ∉ current)

theorem mem_updatesOf {s : ActorState} :
    s ∈ updatesOf ord prev current ↔ current.lookup s.id = some s ∧ prev.lookup s.id ≠ some s := by
  rw [updatesOf, List.mem_filter, KeyedMap.mem_values, decide_eq_true_iff]

theorem mem_removedOf : id ∈ removedOf ord prev current ↔ id ∈ prev ∧ id ∉ current := by
  rw [removedOf, List.mem_filter, KeyedMap.mem_keys, decide_eq_true_iff]

theorem find_updatesOf (ord : Order) (prev current : SharedSnapshot) (id : ActorId) :
    (updatesOf ord prev current).find? (fun s => s.id = id) =
      if prev.lookup id = current.lookup id then none else current.lookup id := by
  cases found : (updatesOf ord prev current).find? fun s => s.id = id with
  | none =>
      rw [List.find?_eq_none] at found
      cases here : current.lookup id with
      | none => simp
      | some s =>
          have own : s.id = id := current.keyed id s here
          by_cases same : prev.lookup id = some s
          · rw [if_pos same]
          · subst own
            have member : s ∈ updatesOf ord prev current := mem_updatesOf.mpr ⟨here, same⟩
            simpa using found s member
  | some s =>
      have own : s.id = id := by simpa using List.find?_some found
      obtain ⟨here, changed⟩ := mem_updatesOf.mp (List.mem_of_find?_eq_some found)
      rw [own] at here changed
      rw [here, if_neg changed]

theorem publish_disconnected (ord : Order) (podId : String) (self : Publisher) (snap : SharedSnapshot)
    {attempt : Attempt} (failed : attempt.connects = false) :
    (self.publish ord podId snap attempt).1 = none ∧ (self.publish ord podId snap attempt).2.prev = self.prev := by
  simp [Publisher.publish, failed]

theorem publish_connected (self : Publisher) (snap : SharedSnapshot) {attempt : Attempt}
    (connected : attempt.connects = true) :
    self.publish ord podId snap attempt =
      (if (updatesOf ord self.prev snap).isEmpty && (removedOf ord self.prev snap).isEmpty then none
        else if attempt.serialises && attempt.publishes then
          some ⟨podId, updatesOf ord self.prev snap, removedOf ord self.prev snap⟩
        else none, ⟨snap, reconnectBaseMs⟩) := by
  unfold Publisher.publish updatesOf removedOf
  rw [if_neg (by simp [connected])]
  simp only
  split_ifs <;> rfl

/-! ## Applying payloads -/

theorem lookup_applyRemoteDelta (snap : SharedSnapshot) (updates : List ActorState) (removed : List ActorId)
    (id : ActorId) : (applyRemoteDelta snap updates removed).lookup id =
      (if id ∈ removed then none else snap.lookup id).or (updates.find? fun s => s.id = id) := by
  rw [applyRemoteDelta, KeyedMap.lookup_orInsertAll, KeyedMap.lookup_eraseAll]

theorem mem_applyRemoteDelta {updates : List ActorState} {removed : List ActorId} :
    id ∈ applyRemoteDelta snap updates removed ↔ id ∈ snap ∧ id ∉ removed ∨ ∃ s ∈ updates, s.id = id := by
  rw [KeyedMap.mem_iff_isSome, lookup_applyRemoteDelta, Option.isSome_or, Bool.or_eq_true, List.find?_isSome]
  by_cases gone : id ∈ removed <;> simp [gone, ← KeyedMap.mem_iff_isSome]

theorem lookup_applyDelta (snap prev current : SharedSnapshot) (id : ActorId) :
    (applyRemoteDelta snap (updatesOf ord prev current) (removedOf ord prev current)).lookup id =
      match current.lookup id with
      | none => if id ∈ prev then none else snap.lookup id
      | some s => (snap.lookup id).or (if prev.lookup id = some s then none else some s) := by
  rw [lookup_applyRemoteDelta, find_updatesOf]
  cases here : current.lookup id with
  | none =>
      have gone : id ∉ current := KeyedMap.not_mem_iff.mpr here
      simp [mem_removedOf, gone]
  | some s =>
      have present : id ∈ current := KeyedMap.mem_iff.mpr ⟨s, here⟩
      simp [mem_removedOf, present]

def applyAll (payloads : List SyncPayload) (snap : SharedSnapshot) : SharedSnapshot :=
  payloads.foldl (fun snap payload => applyRemoteDelta snap payload.updates payload.removed) snap

theorem applyAll_congr (payloads : List SyncPayload) {snap snap' : SharedSnapshot}
    (same : snap.lookup id = snap'.lookup id) :
    (applyAll payloads snap).lookup id = (applyAll payloads snap').lookup id := by
  induction payloads generalizing snap snap' with
  | nil => exact same
  | cons payload rest ih =>
      apply ih
      rw [lookup_applyRemoteDelta, lookup_applyRemoteDelta, same]

-- an empty difference is not published, and applying it would do nothing
theorem applyAll_publish (ord : Order) (podId : String) (self : Publisher) (snap target : SharedSnapshot) :
    applyAll (self.publish ord podId snap ⟨true, true, true⟩).1.toList target =
      applyRemoteDelta target (updatesOf ord self.prev snap) (removedOf ord self.prev snap) := by
  rw [publish_connected self snap rfl]
  simp only [Bool.and_self, if_true]
  split_ifs with empty
  · rw [Bool.and_eq_true, List.isEmpty_iff, List.isEmpty_iff] at empty
    rw [empty.1, empty.2]
    rfl
  · rfl

/-! ## Local actors -/

theorem locals_kept_iff (snap : SharedSnapshot) (locals : List ActorId) (present : ∀ id ∈ locals, id ∈ snap)
    (updates : List ActorState) (removed : List ActorId) :
    LocalsKept snap locals updates removed ↔
      ∀ id ∈ locals, id ∈ removed → updates.find? (fun s => s.id = id) = snap.lookup id := by
  constructor
  · intro kept id mine evicted
    have same := (kept id mine).2
    rw [lookup_applyRemoteDelta, if_pos evicted, Option.none_or] at same
    exact same
  · intro spared id mine
    obtain ⟨s, here⟩ := KeyedMap.mem_iff.mp (present id mine)
    have same : (applyRemoteDelta snap updates removed).lookup id = snap.lookup id := by
      rw [lookup_applyRemoteDelta]
      split_ifs with evicted
      · rw [Option.none_or]
        exact spared id mine evicted
      · rw [here, Option.some_or]
    exact ⟨KeyedMap.mem_iff.mpr ⟨s, same.trans here⟩, same⟩

theorem locals_kept_of_other_tombstone :
    LocalsKept (KeyedMap.empty.insert (sighting 1 ⟨5, 5⟩)) [⟨1⟩] [sighting 1 ⟨50, 5⟩] [⟨2⟩] := by
  rw [locals_kept_iff]
  · decide
  · decide

-- another pod has let its own first actor go
theorem tombstone_evicts_local :
    ∃ payload, ((⟨KeyedMap.empty.insert (sighting 1 ⟨50, 5⟩), 500⟩ : Publisher).publish .stored "pod-b" .empty
        ⟨true, true, true⟩).1 = some payload ∧
      (⟨1⟩ : ActorId) ∈ (KeyedMap.empty.insert (sighting 1 ⟨5, 5⟩) : SharedSnapshot) ∧
      ¬LocalsKept (KeyedMap.empty.insert (sighting 1 ⟨5, 5⟩)) [⟨1⟩] payload.updates payload.removed := by
  refine ⟨⟨"pod-b", [], [⟨1⟩]⟩, by decide +kernel, by decide +kernel, ?_⟩
  intro kept
  have there := (kept ⟨1⟩ List.mem_cons_self).1
  exact absurd there (by decide +kernel)

/-! ## Convergence -/

/-- The state in which `id` entered the snapshots that have had it since. -/
def firstSeen (id : ActorId) : List SharedSnapshot → Option ActorState
  | [] => none
  | current :: earlier => (current.lookup id).map (firstSeen id earlier).getD

theorem firstSeen_isSome (id : ActorId) (history : List SharedSnapshot) :
    (firstSeen id history).isSome = (history.head?.bind fun snap => snap.lookup id).isSome := by
  cases history with
  | nil => rfl
  | cons current earlier => simp [firstSeen]

theorem firstSeen_eq_some {history : List SharedSnapshot} {s : ActorState} :
    firstSeen id history = some s ↔ ∃ later appeared before, history = later ++ appeared :: before ∧
      (∀ snap ∈ later, id ∈ snap) ∧ (∀ snap ∈ before.head?, id ∉ snap) ∧ appeared.lookup id = some s := by
  induction history generalizing s with
  | nil => simp [firstSeen]
  | cons current earlier ih =>
      constructor
      · intro seen
        obtain ⟨now, here, first⟩ := Option.map_eq_some_iff.mp seen
        cases old : firstSeen id earlier with
        | none =>
            rw [old, Option.getD_none] at first
            subst first
            refine ⟨[], current, earlier, rfl, by simp, ?_, here⟩
            intro snap last
            have absent := firstSeen_isSome id earlier
            rw [old, Option.mem_def.mp last] at absent
            exact KeyedMap.not_mem_iff.mpr (Option.isSome_eq_false_iff.mp absent.symm |> Option.isNone_iff_eq_none.mp)
        | some t =>
            rw [old, Option.getD_some] at first
            subst first
            obtain ⟨later, appeared, before, rfl, kept, new, there⟩ := ih.mp old
            refine ⟨current :: later, appeared, before, rfl, ?_, new, there⟩
            intro snap member
            cases List.mem_cons.mp member with
            | inl same => exact same ▸ KeyedMap.mem_iff.mpr ⟨now, here⟩
            | inr rest => exact kept snap rest
      · intro given
        obtain ⟨later, appeared, before, split, kept, new, there⟩ := given
        cases later with
        | nil =>
            cases split
            have absent : firstSeen id earlier = none := by
              rw [← Option.not_isSome_iff_eq_none, firstSeen_isSome]
              cases last : earlier.head? with
              | none => simp
              | some snap => simp [KeyedMap.not_mem_iff.mp (new snap last)]
            simp [firstSeen, there, absent]
        | cons latest later =>
            cases split
            have old : firstSeen id (later ++ appeared :: before) = some s :=
              ih.mpr ⟨later, appeared, before, rfl, fun snap member => kept snap (List.mem_cons_of_mem _ member), new, there⟩
            obtain ⟨now, here⟩ := KeyedMap.mem_iff.mp (kept current List.mem_cons_self)
            simp [firstSeen, here, old]

/-! ## What a merge does -/

theorem mem_idsOf {states : List ActorState} : id ∈ idsOf states ↔ ∃ s ∈ states, s.id = id := by
  rw [idsOf, HashMap.mem_insertAll]
  simp [AList.notMem_empty]

theorem mem_mergeLocal {prevLocalIds : HashSet ActorId} {states : List ActorState} :
    id ∈ (mergeLocal snap prevLocalIds states).1 ↔ (∃ s ∈ states, s.id = id) ∨ id ∈ snap ∧ id ∉ prevLocalIds := by
  change id ∈ states.foldl KeyedMap.insert (snap.retain _) ↔ _
  rw [KeyedMap.mem_insertAll, KeyedMap.mem_iff_isSome, KeyedMap.lookup_retain]
  by_cases present : ∃ s ∈ states, s.id = id
  · simp [present]
  · have unlisted : id ∉ idsOf states := fun listed => present (mem_idsOf.mp listed)
    by_cases old : id ∈ prevLocalIds <;> simp [present, unlisted, old, ← KeyedMap.mem_iff_isSome]

theorem mergeLocal_lookup (snap : SharedSnapshot) {prevLocalIds : HashSet ActorId} {states : List ActorState}
    (foreign : ∀ s ∈ states, s.id ≠ id) : (mergeLocal snap prevLocalIds states).1.lookup id =
      if id ∈ prevLocalIds then none else snap.lookup id := by
  have absent : id ∉ idsOf states := by
    rw [mem_idsOf]
    simp only [not_exists, not_and]
    exact foreign
  change (states.foldl KeyedMap.insert (snap.retain _)).lookup id = _
  rw [KeyedMap.lookup_insertAll_absent foreign, KeyedMap.lookup_retain]
  simp only [absent, decide_false, Bool.or_false, Bool.not_eq_true', decide_eq_false_iff_not]
  split_ifs <;> simp_all

theorem mergeLocal_here (snap : SharedSnapshot) (prevLocalIds : HashSet ActorId) {states : List ActorState}
    (distinct : (states.map ActorState.id).Nodup) {s : ActorState} (member : s ∈ states) :
    (mergeLocal snap prevLocalIds states).1.lookup s.id = some s :=
  KeyedMap.lookup_insertAll_mem distinct member _

section Merges
open PodSnapshot

theorem lastMerged_concat (steps : List SnapshotStep) (step : SnapshotStep) :
    lastMerged (steps ++ [step]) =
      match step with
      | .merge states => states
      | .remote _ _ => lastMerged steps := by
  rw [lastMerged, List.foldl_append]
  rfl

-- whatever the subscriber does in between, the tick loop remembers what it merged last
theorem prevLocalIds_run (shared : SharedSnapshot) (steps : List SnapshotStep) :
    (run shared steps).prevLocalIds = idsOf (lastMerged steps) := by
  induction steps using List.reverseRecOn with
  | nil => rfl
  | append_singleton steps step ih =>
      rw [run, List.foldl_append, lastMerged_concat]
      cases step with
      | merge states => rfl
      | remote updates removed => exact ih

theorem run_merge (shared : SharedSnapshot) (steps : List SnapshotStep) (states : List ActorState) :
    (run shared (steps ++ [.merge states])).shared =
      (mergeLocal (run shared steps).shared (idsOf (lastMerged steps)) states).1 := by
  rw [run, List.foldl_append, ← prevLocalIds_run shared steps]
  rfl

theorem not_mem_ids {states : List ActorState} : id ∉ states.map ActorState.id ↔ ∀ s ∈ states, s.id ≠ id := by
  simp only [List.mem_map, not_exists, not_and, ne_eq]

/-- Each merge replaces the entries of the merge before it and leaves all others alone. -/
theorem merge_replaces_locals (shared : SharedSnapshot) (steps : List SnapshotStep) (states : List ActorState)
    (distinct : (states.map ActorState.id).Nodup) :
    Merged (lastMerged steps) states (run shared steps).shared (run shared (steps ++ [.merge states])).shared := by
  rw [run_merge]
  constructor
  · intro s member
    exact mergeLocal_here _ _ distinct member
  · intro s member gone
    rw [KeyedMap.not_mem_iff, mergeLocal_lookup _ (not_mem_ids.mp gone), if_pos]
    exact mem_idsOf.mpr ⟨s, member, rfl⟩
  · intro id unmerged foreign
    rw [mergeLocal_lookup _ (not_mem_ids.mp foreign), if_neg]
    intro listed
    obtain ⟨s, member, same⟩ := mem_idsOf.mp listed
    exact not_mem_ids.mp unmerged s member same

-- an actor of another pod appears, and then the second of two villagers leaves
def twoVillagers : List SnapshotStep :=
  [.merge [sighting 1 ⟨5, 5⟩, sighting 2 ⟨5, 5⟩], .remote [sighting 5 ⟨7, 7⟩] [⟨9⟩]]

theorem merge_evicts_second_villager :
    Merged [sighting 1 ⟨5, 5⟩, sighting 2 ⟨5, 5⟩] [sighting 1 ⟨6, 5⟩] (run .empty twoVillagers).shared
      (run .empty (twoVillagers ++ [.merge [sighting 1 ⟨6, 5⟩]])).shared :=
  merge_replaces_locals .empty twoVillagers [sighting 1 ⟨6, 5⟩] (List.nodup_singleton _)

end Merges

/-! ## A link at work -/

structure Linked (theirs : ActorId → Prop) (link : Link) : Prop where
  prev : ∀ id, link.publisher.prev.lookup id = link.history.head?.bind fun snap => snap.lookup id
  entries : ∀ id, theirs id → (applyAll link.inFlight link.snapshot).lookup id = firstSeen id link.history
  locals : ∀ id ∈ link.prevLocalIds, ¬theirs id

theorem linked_start {snapshot : SharedSnapshot} (ours : ∀ id ∈ snapshot, ¬theirs id) :
    Linked theirs (Link.start snapshot) := by
  refine ⟨fun id => KeyedMap.lookup_empty id, ?_, ?_⟩
  · intro id foreign
    exact KeyedMap.not_mem_iff.mp fun member => ours id member foreign
  · intro id member
    exact absurd member (AList.notMem_empty id)

theorem Linked.publish {link : Link} (inv : Linked theirs link) (ord : Order) (snap : SharedSnapshot) :
    Linked theirs
      { link with
        publisher := (link.publisher.publish ord podId snap ⟨true, true, true⟩).2
        history := snap :: link.history
        inFlight := link.inFlight ++ (link.publisher.publish ord podId snap ⟨true, true, true⟩).1.toList } := by
  refine ⟨?_, ?_, inv.locals⟩
  · intro id
    rw [publish_connected link.publisher snap rfl]
    rfl
  · intro id foreign
    have before := inv.entries id foreign
    have known := firstSeen_isSome id link.history
    rw [← inv.prev] at known
    have split : applyAll (link.inFlight ++ (link.publisher.publish ord podId snap ⟨true, true, true⟩).1.toList)
        link.snapshot = applyRemoteDelta (applyAll link.inFlight link.snapshot)
          (updatesOf ord link.publisher.prev snap) (removedOf ord link.publisher.prev snap) := by
      rw [← applyAll_publish ord podId]
      exact List.foldl_append
    rw [split, lookup_applyDelta, before, firstSeen]
    -- the subscriber knows the actor iff the last snapshot had it
    cases here : snap.lookup id with
    | none =>
        cases old : firstSeen id link.history with
        | none => simp
        | some t =>
            rw [old] at known
            have member : id ∈ link.publisher.prev :=
              KeyedMap.mem_iff.mpr (Option.isSome_iff_exists.mp known.symm)
            simp [member]
    | some s =>
        cases old : firstSeen id link.history with
        | none =>
            rw [old] at known
            have absent : link.publisher.prev.lookup id = none := Option.not_isSome_iff_eq_none.mp (by simp [← known])
            simp [absent]
        | some t => simp

theorem Linked.deliver {link : Link} {payload : SyncPayload} {rest : List SyncPayload} (inv : Linked theirs link)
    (queued : link.inFlight = payload :: rest) :
    Linked theirs
      { link with
        inFlight := rest
        snapshot := applyRemoteDelta link.snapshot payload.updates payload.removed } := by
  refine ⟨inv.prev, ?_, inv.locals⟩
  intro id foreign
  have before := inv.entries id foreign
  rw [queued] at before
  exact before

theorem Linked.merge {link : Link} (inv : Linked theirs link) {states : List ActorState}
    (ours : ∀ s ∈ states, ¬theirs s.id) :
    Linked theirs
      { link with
        snapshot := (mergeLocal link.snapshot link.prevLocalIds states).1
        prevLocalIds := (mergeLocal link.snapshot link.prevLocalIds states).2 } := by
  refine ⟨inv.prev, ?_, ?_⟩
  · intro id foreign
    rw [← inv.entries id foreign]
    apply applyAll_congr
    have other : ∀ s ∈ states, s.id ≠ id := fun s member same => ours s member (same ▸ foreign)
    rw [mergeLocal_lookup link.snapshot other, if_neg fun member => inv.locals id member foreign]
  · intro id member
    obtain ⟨s, there, rfl⟩ := mem_idsOf.mp member
    exact ours s there

theorem linked_reachable {link : Link} (reachable : Link.Reachable podId theirs link) : Linked theirs link := by
  refine Transition.Reachable.invariant ?_ ?_ reachable
  · intro link first
    obtain ⟨snapshot, ours, rfl⟩ := first
    exact linked_start ours
  · intro link step after inv disjoint moved
    cases step with
    | publish ord snap =>
        cases moved
        exact inv.publish ord snap
    | deliver =>
        cases queued : link.inFlight with
        | nil => simp [Link.next, queued] at moved
        | cons payload rest =>
            simp only [Link.next, queued, Option.some.injEq] at moved
            subst moved
            exact inv.deliver queued
    | merge states =>
        cases moved
        exact inv.merge disjoint

theorem converges_iff (podId : String) (theirs : ActorId → Prop) (link : Link)
    (reachable : Link.Reachable podId theirs link) (drained : link.inFlight = []) :
    link.Converged theirs ↔ Link.KeepsFirstState theirs link.history := by
  have inv := linked_reachable reachable
  have entries : ∀ id, theirs id → link.snapshot.lookup id = firstSeen id link.history := by
    intro id foreign
    have before := inv.entries id foreign
    rw [drained] at before
    exact before
  constructor
  · intro converged later appeared before id s foreign split kept new there current latest
    have seen : firstSeen id link.history = some s :=
      firstSeen_eq_some.mpr ⟨later, appeared, before, split, kept, new, there⟩
    have same := converged id foreign
    rw [entries id foreign, seen, inv.prev, Option.mem_def.mp latest] at same
    exact same.symm
  · intro keeps id foreign
    rw [entries id foreign, inv.prev]
    cases seen : firstSeen id link.history with
    | none =>
        have absent := firstSeen_isSome id link.history
        rw [seen] at absent
        exact (Option.not_isSome_iff_eq_none.mp (by simp [← absent])).symm
    | some s =>
        obtain ⟨later, appeared, before, split, kept, new, there⟩ := firstSeen_eq_some.mp seen
        cases latest : link.history.head? with
        | none =>
            rw [List.head?_eq_none_iff] at latest
            rw [latest] at seen
            cases seen
        | some current => exact (keeps later appeared before id s foreign split kept new there current latest).symm

theorem converges_on_first_sighting :
    (⟨⟨KeyedMap.empty.insert (sighting 1 ⟨5, 5⟩), 500⟩, [KeyedMap.empty.insert (sighting 1 ⟨5, 5⟩)], [],
      applyRemoteDelta .empty [sighting 1 ⟨5, 5⟩] [], ∅⟩ : Link).Converged fun _ => True := by
  refine (converges_iff "pod-a" _ _ (.step (a := .deliver) (.step (a := .publish .stored
    (KeyedMap.empty.insert (sighting 1 ⟨5, 5⟩))) (.start ⟨.empty, ?_, rfl⟩) trivial rfl) trivial rfl) rfl).mpr ?_
  · intro id member
    exact absurd member (KeyedMap.not_mem_empty id)
  · intro later appeared before id s _ split _ _ there current latest
    cases later with
    | nil =>
        cases split
        cases latest
        exact there
    | cons _ rest => cases rest <;> cases split

theorem update_not_applied : ∃ link, Link.Reachable "pod-a" (fun _ => True) link ∧ link.inFlight = [] ∧
    ¬link.Converged fun _ => True := by
  refine ⟨_, .step (a := .deliver) (.step (a := .publish .stored (KeyedMap.empty.insert (sighting 1 ⟨50, 5⟩)))
    (.step (a := .deliver) (.step (a := .publish .stored (KeyedMap.empty.insert (sighting 1 ⟨5, 5⟩)))
      (.start ⟨.empty, ?_, rfl⟩) trivial rfl) trivial rfl) trivial rfl) trivial rfl, rfl, ?_⟩
  · intro id member
    exact absurd member (KeyedMap.not_mem_empty id)
  · intro converged
    exact absurd (converged ⟨1⟩ trivial) (by decide +kernel)

/-! ## Failing publishes -/

theorem mem_announced_append (payloads : List SyncPayload) (payload : SyncPayload) (id : ActorId) :
    id ∈ announced (payloads ++ [payload]) ↔
      (id ∈ announced payloads ∨ ∃ s ∈ payload.updates, s.id = id) ∧ id ∉ payload.removed := by
  rw [announced, List.foldl_append, List.foldl_cons, List.foldl_nil, HashMap.mem_eraseAll, HashMap.mem_insertAll]
  rfl

theorem mem_updatesOf_or (ord : Order) (prev current : SharedSnapshot) (id : ActorId) :
    ((id ∈ prev ∨ ∃ s ∈ updatesOf ord prev current, s.id = id) ∧ id ∉ removedOf ord prev current) ↔ id ∈ current := by
  rw [mem_removedOf]
  constructor
  · intro given
    obtain ⟨old | ⟨s, changed, rfl⟩, kept⟩ := given
    · by_contra gone
      exact kept ⟨old, gone⟩
    · exact KeyedMap.mem_iff.mpr ⟨s, (mem_updatesOf.mp changed).1⟩
  · intro present
    refine ⟨?_, fun gone => gone.2 present⟩
    by_cases old : id ∈ prev
    · exact .inl old
    · obtain ⟨s, here⟩ := KeyedMap.mem_iff.mp present
      have own := current.keyed id s here
      subst own
      refine .inr ⟨s, mem_updatesOf.mpr ⟨here, ?_⟩, rfl⟩
      rw [KeyedMap.not_mem_iff.mp old]
      simp

/-- The folded ids are those the publisher compares with. -/
structure Faithful (box : Outbox) : Prop where
  folded : ∀ id, id ∈ announced box.published ↔ id ∈ box.publisher.prev
  last : ∀ id, id ∈ box.last ↔ id ∈ box.publisher.prev

theorem Faithful.next {box : Outbox} (inv : Faithful box) {iteration : Iteration}
    (kept : box.LosesNoId iteration) : Faithful (box.next podId iteration) := by
  unfold Outbox.next
  cases connects : iteration.attempt.connects with
  | false =>
      obtain ⟨silent, same⟩ := publish_disconnected iteration.ord podId box.publisher iteration.snap connects
      cases sent : box.publisher.publish iteration.ord podId iteration.snap iteration.attempt with
      | mk payload publisher =>
          rw [sent] at silent same
          cases silent
          refine ⟨?_, ?_⟩
          · intro id
            rw [inv.folded, ← same]
          · intro id
            rw [inv.last, ← same]
  | true =>
      rw [publish_connected box.publisher iteration.snap connects]
      split_ifs with empty ok
      · -- nothing has changed
        rw [Bool.and_eq_true, List.isEmpty_iff, List.isEmpty_iff] at empty
        have same : ∀ id, id ∈ box.publisher.prev ↔ id ∈ iteration.snap := by
          intro id
          rw [← mem_updatesOf_or iteration.ord box.publisher.prev iteration.snap, empty.1, empty.2]
          simp
        exact ⟨fun id => (inv.folded id).trans (same id), fun id => (inv.last id).trans (same id)⟩
      · refine ⟨?_, fun id => Iff.rfl⟩
        intro id
        change id ∈ announced (box.published ++ [_]) ↔ id ∈ iteration.snap
        rw [mem_announced_append, inv.folded]
        exact mem_updatesOf_or _ _ _ _
      · rw [Bool.not_eq_true] at ok
        have same := kept connects ok
        exact ⟨fun id => (inv.folded id).trans (same id).symm, fun id => (inv.last id).trans (same id).symm⟩

theorem lossless_of_kept_ids (podId : String) (box : Outbox)
    (reachable : Outbox.Reachable podId Outbox.LosesNoId box) : box.Lossless := by
  have inv : Faithful box := by
    refine reachable.invariant ?_ ?_
    · intro box first
      subst first
      exact ⟨fun id => Iff.rfl, fun id => Iff.rfl⟩
    · intro box iteration after inv kept moved
      cases moved
      exact inv.next kept
  intro id
  rw [inv.folded, inv.last]

theorem lossless_after_reconnect : ∃ box : Outbox, box.Lossless ∧ (⟨1⟩ : ActorId) ∈ announced box.published := by
  refine ⟨_, lossless_of_kept_ids "pod-a" _ (.step
    (a := ⟨.stored, KeyedMap.empty.insert (sighting 1 ⟨5, 5⟩), ⟨true, true, true⟩⟩) (.step
      (a := ⟨.stored, KeyedMap.empty.insert (sighting 1 ⟨5, 5⟩), ⟨false, false, false⟩⟩) (.start rfl) ?_ rfl) ?_ rfl), ?_⟩
  · intro connects
    cases connects
  · intro _ failed
    cases failed
  · decide +kernel

theorem failed_publish_loses_id : ∃ box : Outbox, Outbox.Reachable "pod-a" (fun _ _ => True) box ∧ ¬box.Lossless := by
  refine ⟨_, .step (a := ⟨.stored, (KeyedMap.empty.insert (sighting 1 ⟨5, 5⟩)).insert (sighting 2 ⟨5, 5⟩),
      ⟨true, true, true⟩⟩) (.step
    (a := ⟨.stored, KeyedMap.empty.insert (sighting 1 ⟨5, 5⟩), ⟨true, true, false⟩⟩) (.start rfl) trivial rfl) trivial rfl, ?_⟩
  intro lossless
  exact absurd (lossless ⟨1⟩) (by decide +kernel)

end LiveWorld.Proof.Sync

import LiveWorld.Proof.Durability
import LiveWorld.Spec.Crash

/-!
# Snapshots survive a crash

As long as ticks only grow, the snapshot being written is the newest of all, so pruning never reaches it, however
far it gets.
-/

namespace LiveWorld.Proof.Crash
open HashTable Spec Largest Proof.Durability
variable {codec : Codec} {store : SnapshotStore} {files : Directory codec} {all : Finset UInt64}
  {snapshot : WorldSnapshot} {ord : Order} {tick : UInt64}

/-! ## The files of the largest ticks -/

def largestTicks (store : SnapshotStore) (all : Finset UInt64) : Finset UInt64 :=
  largest UInt64.toNat store.maxSnapshots all

theorem toNat_injective : Function.Injective UInt64.toNat := fun _ _ same => UInt64.toNat_inj.mp same

theorem largestTicks_spec (store : SnapshotStore) (all : Finset UInt64) :
    LargestTicks store.maxSnapshots all (largestTicks store all) := by
  refine ⟨Finset.filter_subset _ _, card_largest toNat_injective _ _, ?_⟩
  intro tick member dropped other kept
  exact UInt64.lt_iff_toNat_lt.mpr (lt_of_mem_largest kept member dropped)

structure Kept (store : SnapshotStore) (all : Finset UInt64) (files : Directory codec) : Prop where
  named : Named files
  present : ∀ tick, snapshotName tick ∈ files ↔ tick ∈ largestTicks store all

theorem kept_empty (store : SnapshotStore) : Kept store ∅ (∅ : Directory codec) := by
  refine ⟨fun name member => absurd member (AList.notMem_empty name), fun tick => ?_⟩
  simp [largestTicks, largest]

-- whoever is above a kept tick is kept as well
theorem Kept.newer (inv : Kept store all files) (kept : tick ∈ largestTicks store all) :
    newerTicks files tick = above UInt64.toNat all tick := by
  ext other
  simp only [newerTicks, Set.mem_ofPred_eq, inv.present, Finset.mem_coe, mem_above, UInt64.lt_iff_toNat_lt]
  rw [largestTicks, mem_largest] at kept
  constructor
  · intro given
    exact ⟨(mem_largest.mp given.2).1, given.1⟩
  · intro given
    have fewer := Finset.card_le_card (above_anti (s := all) given.2.le)
    exact ⟨given.2, mem_largest.mpr ⟨given.1, fewer.trans_lt kept.2⟩⟩

theorem Kept.newer_written (inv : Kept store all files) (top : ∀ other ∈ all, other ≤ snapshot.tick) :
    newerTicks (written files snapshot) snapshot.tick = ∅ := by
  rw [newerTicks_written, Set.eq_empty_iff_forall_notMem]
  intro other given
  have member := (mem_largest.mp ((inv.present other).mp given.2)).1
  have lower := UInt64.le_iff_toNat_le.mp (top other member)
  exact Nat.not_lt.mpr lower (UInt64.lt_iff_toNat_lt.mp given.1)

theorem Kept.last_stays (inv : Kept store all files) (top : ∀ other ∈ all, other ≤ snapshot.tick)
    (positive : 1 ≤ store.maxSnapshots) (ord : Order) :
    snapshotName snapshot.tick ∉ surplus store (written files snapshot) ord := by
  rw [kept_iff (inv.named.written snapshot) ord ((mem_written _ _).mpr (.inl rfl)), inv.newer_written top,
    Set.ncard_empty]
  exact positive

theorem Kept.write (inv : Kept store all files) (top : ∀ other ∈ all, other ≤ snapshot.tick)
    (positive : 1 ≤ store.maxSnapshots) (ord : Order) :
    Kept store (insert snapshot.tick all) (store.write completed ord files snapshot).2 := by
  have ranked : ∀ other ∈ all, other.toNat ≤ snapshot.tick.toNat :=
    fun other member => UInt64.le_iff_toNat_le.mp (top other member)
  have done : (store.write completed ord files snapshot).1 = .ok _ := write_ok (fun _ => rfl) ord files snapshot
  refine ⟨inv.named.write _ _ _, fun tick => ?_⟩
  rw [mem_write done, mem_written]
  by_cases same : tick = snapshot.tick
  · subst same
    exact iff_of_true ⟨.inl rfl, inv.last_stays top positive ord⟩ (mem_largest_top ranked positive)
  · by_cases before : tick ∈ largestTicks store all
    · have there : snapshotName tick ∈ written files snapshot := (mem_written _ _).mpr (.inr ((inv.present tick).mpr before))
      have member := (mem_largest.mp before).1
      have lower : tick.toNat < snapshot.tick.toNat :=
        (ranked tick member).lt_of_ne fun equal => same (UInt64.toNat_inj.mp equal)
      have newer : newerTicks (written files snapshot) tick = above UInt64.toNat (insert snapshot.tick all) tick := by
        rw [above_insert_of_lt lower, Finset.coe_insert, ← inv.newer before]
        ext other
        simp only [newerTicks, Set.mem_ofPred_eq, mem_written, Set.mem_insert_iff]
        constructor
        · rintro ⟨less, equal | old⟩
          · exact .inl equal
          · exact .inr ⟨less, old⟩
        · rintro (equal | given)
          · exact ⟨equal ▸ UInt64.lt_iff_toNat_lt.mpr lower, .inl equal⟩
          · exact ⟨given.1, .inr given.2⟩
      rw [kept_iff (inv.named.written snapshot) ord there, newer, Set.ncard_coe_finset, largestTicks, mem_largest,
        Finset.mem_insert]
      exact ⟨fun given => ⟨.inr member, given.2⟩, fun given => ⟨.inr ((inv.present tick).mpr before), given.2⟩⟩
    · have gone : ¬(tick = snapshot.tick ∨ snapshotName tick ∈ files) :=
        not_or.mpr ⟨same, fun there => before ((inv.present tick).mp there)⟩
      refine iff_of_false (fun given => gone given.1) fun kept => before ?_
      rw [largestTicks, mem_largest] at kept ⊢
      obtain ⟨member, few⟩ := kept
      have grown : above UInt64.toNat all tick ⊆ above UInt64.toNat (insert snapshot.tick all) tick :=
        Finset.filter_subset_filter _ (Finset.subset_insert _ _)
      exact ⟨(Finset.mem_insert.mp member).resolve_left same, (Finset.card_le_card grown).trans_lt few⟩

/-! ## The pointer -/

/-- The pointer names the file of `snapshot`. -/
structure Points (files : Directory codec) (snapshot : WorldSnapshot) : Prop where
  pointer : files.lookup latestName = some (codec.ofText (snapshotName snapshot.tick))
  content : files.lookup (snapshotName snapshot.tick) = some (codec.serialize snapshot)

theorem Points.readLatest (points : Points files snapshot) :
    SnapshotStore.readLatest files = .ok (some snapshot) := by
  have target : files.lookup (trim (snapshotName snapshot.tick)) = some (codec.serialize snapshot) := by
    rw [trim_snapshotName]
    exact points.content
  simp only [SnapshotStore.readLatest, points.pointer, codec.toText_ofText, target, codec.deserialize_serialize]

theorem points_written (files : Directory codec) (snapshot : WorldSnapshot) : Points (written files snapshot) snapshot := by
  constructor
  · rw [lookup_written, if_pos rfl]
  · rw [lookup_written, if_neg (snapshotName_ne_latest _), if_pos rfl]

theorem removeFiles_kept {faults : Faults} {k : Nat} {names : List String} {name : String} (kept : name ∉ names) :
    (store.removeFiles faults k names files).2.lookup name = files.lookup name := by
  induction names generalizing k files with
  | nil => rfl
  | cons first rest ih =>
      rw [List.mem_cons, not_or] at kept
      rw [SnapshotStore.removeFiles]
      split_ifs
      · rfl
      · rw [ih kept.2, HashMap.lookup_erase_eq, if_neg]
        exact fun same => kept.1 same

theorem prune_kept {faults : Faults} {name : String} (kept : name ∉ surplus store files ord) :
    (store.pruneOldSnapshots faults ord files).2.lookup name = files.lookup name := by
  simp only [SnapshotStore.pruneOldSnapshots]
  split_ifs
  · rfl
  · exact removeFiles_kept kept
  · rfl

-- once the pointer names the new snapshot, neither of the two is removed
theorem Kept.points (inv : Kept store all files) (top : ∀ other ∈ all, other ≤ snapshot.tick)
    (positive : 1 ≤ store.maxSnapshots) (ord : Order) {faults : Faults} (first : faults 0 = false)
    (second : faults 1 = false) : Points (store.write faults ord files snapshot).2 snapshot := by
  have points := points_written files snapshot
  simp only [SnapshotStore.write, first, second, Bool.false_eq_true, if_false]
  constructor
  · exact (prune_kept (latest_not_surplus store _ ord)).trans points.pointer
  · exact (prune_kept (inv.last_stays top positive ord)).trans points.content

theorem readLatest_interrupted (inv : Kept store all files) {last : WorldSnapshot}
    (top : ∀ other ∈ all, other ≤ last.tick) (positive : 1 ≤ store.maxSnapshots) (ord : Order) (cut : Nat)
    {before : Option WorldSnapshot} (pointed : ∀ s, before = some s → Points files s)
    (started : before.isSome ∨ 2 ≤ cut) :
    ∃ s, SnapshotStore.readLatest (store.write (stoppedAt cut) ord files last).2 = .ok (some s) ∧
      (s = last ∨ before = some s) := by
  match cut with
  | 0 =>
      obtain ⟨previous, rfl⟩ := Option.isSome_iff_exists.mp (started.resolve_right (by omega))
      exact ⟨previous, (pointed previous rfl).readLatest, .inr rfl⟩
  | 1 =>
      obtain ⟨previous, rfl⟩ := Option.isSome_iff_exists.mp (started.resolve_right (by omega))
      have points := pointed previous rfl
      have interrupted : (store.write (stoppedAt 1) ord files last).2 =
          files.insert (snapshotName last.tick) (codec.serialize last) := rfl
      have pointer : (files.insert (snapshotName last.tick) (codec.serialize last)).lookup latestName =
          some (codec.ofText (snapshotName previous.tick)) := by
        rw [HashMap.lookup_insert_eq, if_neg (snapshotName_ne_latest _).symm]
        exact points.pointer
      rw [interrupted]
      by_cases same : previous.tick = last.tick
      · refine ⟨last, Points.readLatest ⟨same ▸ pointer, ?_⟩, .inl rfl⟩
        rw [HashMap.lookup_insert_eq, if_pos rfl]
      · refine ⟨previous, Points.readLatest ⟨pointer, ?_⟩, .inr rfl⟩
        rw [HashMap.lookup_insert_eq, if_neg fun equal => same (snapshotName_injective equal)]
        exact points.content
  | cut + 2 =>
      have first : stoppedAt (cut + 2) 0 = false := decide_eq_false (by omega)
      have second : stoppedAt (cut + 2) 1 = false := decide_eq_false (by omega)
      exact ⟨last, (inv.points top positive ord first second).readLatest, .inl rfl⟩

/-! ## Whole lifetimes -/

structure Lifetime (store : SnapshotStore) (writes : List SnapshotWrite) (files : Directory codec) : Prop where
  kept : Kept store (ticks writes).toFinset files
  latest : ∀ s, writes.getLast?.map Prod.snd = some s → Points files s

theorem lifetime_writeAll (positive : 1 ≤ store.maxSnapshots) (writes : List SnapshotWrite)
    (ascending : (ticks writes).Pairwise (· ≤ ·)) : Lifetime store writes (writeAll store writes : Directory codec) := by
  induction writes using List.reverseRecOn with
  | nil => exact ⟨kept_empty store, fun write last => by cases last⟩
  | append_singleton writes write ih =>
      rw [ticks, List.map_append, List.pairwise_append] at ascending
      obtain ⟨before, -, across⟩ := ascending
      have inv := (ih before).kept
      have top : ∀ other ∈ (ticks writes).toFinset, other ≤ write.2.tick :=
        fun other member => across other (List.mem_toFinset.mp member) _ List.mem_cons_self
      have unfolded : (writeAll store (writes ++ [write]) : Directory codec) =
          (store.write completed write.1 (writeAll store writes) write.2).2 := List.foldl_append
      have grown : (ticks (writes ++ [write])).toFinset = insert write.2.tick (ticks writes).toFinset := by
        rw [ticks, List.map_append, List.toFinset_append, List.map_singleton, List.toFinset_cons, List.toFinset_nil,
          insert_empty_eq, Finset.union_comm, Finset.singleton_union]
        rfl
      rw [unfolded]
      constructor
      · rw [grown]
        exact inv.write top positive write.1
      · intro last found
        rw [List.getLast?_concat] at found
        cases found
        exact inv.points top positive _ rfl rfl

/-- Snapshots with growing ticks are crash consistent. -/
theorem snapshots_crash_consistent (codec : Codec) (store : SnapshotStore) (positive : 1 ≤ store.maxSnapshots)
    (writes : List SnapshotWrite) (ascending : (ticks writes).Pairwise (· ≤ ·)) :
    CrashConsistent codec store writes := by
  have lifetime : Lifetime store writes (writeAll store writes : Directory codec) :=
    lifetime_writeAll positive writes ascending
  constructor
  · refine ⟨largestTicks store (ticks writes).toFinset, largestTicks_spec store _, fun name => ?_⟩
    constructor
    · intro given
      obtain ⟨tick, rfl⟩ := lifetime.kept.named name given.1 given.2
      exact ⟨tick, (lifetime.kept.present tick).mp given.1, rfl⟩
    · rintro ⟨tick, kept, rfl⟩
      exact ⟨(lifetime.kept.present tick).mpr kept, isSnapshotName_snapshotName tick⟩
  · intro ord last cut top started
    have highest : ∀ other ∈ (ticks writes).toFinset, other ≤ last.tick :=
      fun other member => top other (List.mem_toFinset.mp member)
    refine readLatest_interrupted lifetime.kept highest positive ord cut lifetime.latest (started.imp_left fun some => ?_)
    rw [Option.isSome_map, List.getLast?_isSome]
    exact some

-- the second snapshot has the tick of the first, and only the last two ticks are kept
theorem repeated_tick_crash_consistent :
    CrashConsistent tagged ⟨"data/snapshots", 2⟩
      [(.stored, ⟨1, 100, []⟩), (.stored, ⟨1, 200, []⟩), (.stored, ⟨2, 300, []⟩), (.stored, ⟨3, 400, []⟩)] :=
  snapshots_crash_consistent tagged _ (by decide) _ (by decide)

end LiveWorld.Proof.Crash

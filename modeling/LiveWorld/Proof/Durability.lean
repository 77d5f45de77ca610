import LiveWorld.Proof.Recovery
import LiveWorld.Spec.Durability

/-!
# Which snapshots survive their own write

Pruning keeps the snapshots with the largest ticks, and the pointer names the one just written. The
two agree as long as fewer than `maxSnapshots` older files have a larger tick.
-/

namespace LiveWorld.Proof.Durability
open HashTable Sorting Spec
variable {codec : Codec} {files : Directory codec} {store : SnapshotStore} {tick : UInt64}

/-! ## File names -/

theorem toList_snapshotName (tick : UInt64) :
    (snapshotName tick).toList = "snapshot_".toList ++ (zeroPadded 20 tick.toNat ++ ".bin".toList) := by
  unfold snapshotName
  simp only [String.toList_ofList, List.append_assoc]

def Before (a b : String) : Prop := a.toList < b.toList

instance : DecidableRel Before := fun a b => inferInstanceAs (Decidable (a.toList < b.toList))

theorem before_asymm (a b : String) (less : Before a b) : ¬Before b a := List.lt_asymm less

theorem snapshotName_before_iff (a b : UInt64) : Before (snapshotName a) (snapshotName b) ↔ a < b := by
  have small : ∀ t : UInt64, t.toNat % 10 ^ 20 = t.toNat := by
    intro t
    have := UInt64.toNat_lt t
    exact Nat.mod_eq_of_lt (by omega)
  rw [Before, toList_snapshotName, toList_snapshotName, append_lt_append_iff, zeroPadded_append_lt_iff, small, small,
    UInt64.lt_iff_toNat_lt]

theorem snapshotName_injective : Function.Injective snapshotName := by
  intro a b same
  have notLess : ∀ x y : UInt64, snapshotName x = snapshotName y → ¬x < y := by
    intro x y same less
    rw [← snapshotName_before_iff, same] at less
    exact before_asymm _ _ less less
  have one := notLess a b same
  have two := notLess b a same.symm
  rw [UInt64.lt_iff_toNat_lt] at one two
  exact UInt64.toNat_inj.mp (by omega)

theorem isSnapshotName_snapshotName (tick : UInt64) : isSnapshotName (snapshotName tick) = true := by
  rw [isSnapshotName, toList_snapshotName, Bool.and_eq_true, List.isPrefixOf_iff_prefix, List.isSuffixOf_iff_suffix]
  constructor
  · exact List.prefix_append _ _
  · rw [← List.append_assoc]
    exact List.suffix_append _ _

theorem snapshotName_ne_latest (tick : UInt64) : snapshotName tick ≠ latestName := by
  intro same
  have := isSnapshotName_snapshotName tick
  rw [same] at this
  exact absurd this (by decide)

theorem trim_eq {text : String} {first last : Char} {middle : List Char}
    (shape : text.toList = first :: (middle ++ [last])) (front : isWhiteSpace first = false)
    (back : isWhiteSpace last = false) : trim text = text := by
  rw [trim, shape, List.dropWhile_cons_of_neg (by simp [front]), ← List.cons_append, List.reverse_append,
    List.reverse_singleton, List.singleton_append, List.dropWhile_cons_of_neg (by simp [back]), List.reverse_cons,
    List.reverse_reverse, List.cons_append, ← shape, String.ofList_toList]

theorem trim_snapshotName (tick : UInt64) : trim (snapshotName tick) = snapshotName tick := by
  have shape : (snapshotName tick).toList =
      's' :: ("napshot_".toList ++ (zeroPadded 20 tick.toNat ++ ".bi".toList) ++ ['n']) := by
    rw [toList_snapshotName, List.append_assoc, List.append_assoc]
    rfl
  exact trim_eq shape (by decide) (by decide)

/-! ## The sorted entries -/

theorem mem_entries (ord : Order) {name : String} :
    name ∈ SnapshotStore.entries files ord ↔ name ∈ files ∧ isSnapshotName name = true := by
  rw [SnapshotStore.entries, (List.mergeSort_perm _ _).mem_iff, List.mem_filter, Order.mem_visit, AList.mem_keys]

theorem entries_nodup (files : Directory codec) (ord : Order) : (SnapshotStore.entries files ord).Nodup := by
  rw [SnapshotStore.entries, (List.mergeSort_perm _ _).nodup_iff]
  exact ((ord.perm _).nodup_iff.mpr files.keys_nodup).filter _

theorem entries_sorted (files : Directory codec) (ord : Order) :
    (SnapshotStore.entries files ord).Pairwise Before := by
  have sorted : (SnapshotStore.entries files ord).Pairwise fun a b => (!decide (b.toList < a.toList)) = true := by
    apply List.pairwise_mergeSort
    · intro a b c first second
      simp only [Bool.not_eq_true', decide_eq_false_iff_not, not_lt] at first second ⊢
      exact first.trans second
    · intro a b
      simp only [Bool.or_eq_true, Bool.not_eq_true', decide_eq_false_iff_not, not_lt]
      exact le_total a.toList b.toList
  refine (sorted.and (entries_nodup files ord)).imp ?_
  intro a b given
  obtain ⟨ordered, different⟩ := given
  simp only [Bool.not_eq_true', decide_eq_false_iff_not, not_lt] at ordered
  exact lt_of_le_of_ne ordered fun same => different (String.toList_inj.mp same)

/-! ## One write -/

theorem removeFiles_lookup {faults : Faults} {k : Nat} {names : List String}
    (done : (store.removeFiles faults k names files).1 = .ok ()) (name : String) :
    (store.removeFiles faults k names files).2.lookup name = if name ∈ names then none else files.lookup name := by
  induction names generalizing k files with
  | nil => simp [SnapshotStore.removeFiles]
  | cons first rest ih =>
      rw [SnapshotStore.removeFiles] at done ⊢
      cases fault : faults k with
      | true => simp [fault] at done
      | false =>
          rw [fault, if_neg Bool.false_ne_true] at done
          rw [if_neg Bool.false_ne_true, ih done, HashMap.lookup_erase_eq]
          by_cases same : name = first <;> simp [same]

def surplus (store : SnapshotStore) (files : Directory codec) (ord : Order) : List String :=
  (SnapshotStore.entries files ord).take ((SnapshotStore.entries files ord).length - store.maxSnapshots)

theorem prune_lookup {faults : Faults} {ord : Order}
    (done : (store.pruneOldSnapshots faults ord files).1 = .ok ()) (name : String) :
    (store.pruneOldSnapshots faults ord files).2.lookup name =
      if name ∈ surplus store files ord then none else files.lookup name := by
  simp only [SnapshotStore.pruneOldSnapshots] at done ⊢
  by_cases fault : faults 2 = true
  · rw [if_pos fault] at done
    cases done
  · rw [if_neg fault] at done ⊢
    by_cases many : (SnapshotStore.entries files ord).length > store.maxSnapshots
    · rw [if_pos many] at done ⊢
      exact removeFiles_lookup done name
    · rw [if_neg many, surplus, Nat.sub_eq_zero_of_le (Nat.not_lt.mp many), List.take_zero,
        if_neg List.not_mem_nil]

def written (files : Directory codec) (snapshot : WorldSnapshot) : Directory codec :=
  (files.insert (snapshotName snapshot.tick) (codec.serialize snapshot)).insert latestName
    (codec.ofText (snapshotName snapshot.tick))

theorem write_lookup {faults : Faults} {ord : Order} {snapshot : WorldSnapshot} {path : String}
    (done : (store.write faults ord files snapshot).1 = .ok path) (name : String) :
    (store.write faults ord files snapshot).2.lookup name =
      if name ∈ surplus store (written files snapshot) ord then none else (written files snapshot).lookup name := by
  simp only [SnapshotStore.write] at done ⊢
  by_cases first : faults 0 = true
  · rw [if_pos first] at done
    cases done
  · by_cases second : faults 1 = true
    · rw [if_neg first, if_pos second] at done
      cases done
    · rw [if_neg first, if_neg second] at done ⊢
      apply prune_lookup
      cases pruned : (store.pruneOldSnapshots faults ord (written files snapshot)).1 with
      | ok _ => exact pruned
      | error e =>
          rw [← written, pruned] at done
          cases done

theorem latest_not_surplus (store : SnapshotStore) (files : Directory codec) (ord : Order) :
    latestName ∉ surplus store files ord := by
  intro member
  exact absurd ((mem_entries ord).mp (List.mem_of_mem_take member)).2 (by decide)

theorem lookup_written (files : Directory codec) (snapshot : WorldSnapshot) (name : String) :
    (written files snapshot).lookup name =
      if name = latestName then some (codec.ofText (snapshotName snapshot.tick))
      else if name = snapshotName snapshot.tick then some (codec.serialize snapshot) else files.lookup name := by
  rw [written, HashMap.lookup_insert_eq, HashMap.lookup_insert_eq]

theorem readLatest_write_iff {faults : Faults} {ord : Order} {snapshot : WorldSnapshot} {path : String}
    (done : (store.write faults ord files snapshot).1 = .ok path) :
    SnapshotStore.readLatest (store.write faults ord files snapshot).2 = .ok (some snapshot) ↔
      snapshotName snapshot.tick ∉ surplus store (written files snapshot) ord := by
  have pointer : (store.write faults ord files snapshot).2.lookup latestName =
      some (codec.ofText (snapshotName snapshot.tick)) := by
    rw [write_lookup done, if_neg (latest_not_surplus _ _ _), lookup_written, if_pos rfl]
  have target : (store.write faults ord files snapshot).2.lookup (trim (snapshotName snapshot.tick)) =
      if snapshotName snapshot.tick ∈ surplus store (written files snapshot) ord then none
      else some (codec.serialize snapshot) := by
    rw [trim_snapshotName, write_lookup done, lookup_written, if_neg (snapshotName_ne_latest _), if_pos rfl]
  simp only [SnapshotStore.readLatest, pointer, codec.toText_ofText, target]
  by_cases removed : snapshotName snapshot.tick ∈ surplus store (written files snapshot) ord
  · rw [if_pos removed]
    split_ifs <;> simp [removed]
  · rw [if_neg removed]
    simp [removed, codec.deserialize_serialize]

/-! ## The snapshots that a directory holds -/

def Named (files : Directory codec) : Prop :=
  ∀ name ∈ files, isSnapshotName name = true → ∃ tick, name = snapshotName tick

theorem Named.mono {files' : Directory codec} (inv : Named files) (fewer : ∀ name ∈ files', name ∈ files) :
    Named files' :=
  fun name member => inv name (fewer name member)

theorem Named.insertSnapshot (inv : Named files) (tick : UInt64) (bytes : codec.Bytes) :
    Named (files.insert (snapshotName tick) bytes) := by
  intro name member form
  cases AList.mem_insert files |>.mp member with
  | inl same => exact ⟨tick, same⟩
  | inr old => exact inv name old form

theorem Named.insertLatest (inv : Named files) (bytes : codec.Bytes) : Named (files.insert latestName bytes) := by
  intro name member form
  cases AList.mem_insert files |>.mp member with
  | inl same => exact absurd (same ▸ form) (by decide)
  | inr old => exact inv name old form

theorem Named.written (inv : Named files) (snapshot : WorldSnapshot) : Named (written files snapshot) :=
  (inv.insertSnapshot _ _).insertLatest _

theorem mem_removeFiles {faults : Faults} {k : Nat} {names : List String} {name : String}
    (member : name ∈ (store.removeFiles faults k names files).2) : name ∈ files := by
  induction names generalizing k files with
  | nil => exact member
  | cons first rest ih =>
      rw [SnapshotStore.removeFiles] at member
      split_ifs at member
      · exact member
      · exact ((AList.mem_erase).mp (ih member)).2

theorem mem_prune {faults : Faults} {ord : Order} {name : String}
    (member : name ∈ (store.pruneOldSnapshots faults ord files).2) : name ∈ files := by
  simp only [SnapshotStore.pruneOldSnapshots] at member
  split_ifs at member
  · exact member
  · exact mem_removeFiles member
  · exact member

theorem Named.write (inv : Named files) (faults : Faults) (ord : Order) (snapshot : WorldSnapshot) :
    Named (store.write faults ord files snapshot).2 := by
  simp only [SnapshotStore.write]
  split_ifs
  · exact inv
  · exact inv.insertSnapshot _ _
  · exact (inv.written snapshot).mono fun name member => mem_prune member

theorem named_reachable {p : Process codec} (reachable : ProcessReachable store p) : Named p.files := by
  induction reachable with
  | start first =>
      obtain ⟨cfg, rfl⟩ := first
      exact fun name member => absurd member (AList.notMem_empty name)
  | @step p _ step _ _ moved ih =>
      cases moved
      cases step with
      | restart cfg => exact ih
      | call call => exact ih
      | persist faults dirOrder actorOrder now => exact ih.write faults dirOrder _

theorem newer_entries (inv : Named files) (ord : Order) (tick : UInt64) :
    ((SnapshotStore.entries files ord).filter fun name => Before (snapshotName tick) name).length =
      (newerTicks files tick).ncard := by
  have distinct := (entries_nodup files ord).filter fun name => decide (Before (snapshotName tick) name)
  rw [← List.toFinset_card_of_nodup distinct, ← Set.ncard_coe_finset,
    ← Set.ncard_image_of_injective _ snapshotName_injective]
  congr 1
  ext name
  simp only [List.coe_toFinset, Set.mem_ofPred_eq, List.mem_filter, decide_eq_true_eq, mem_entries, Set.mem_image,
    newerTicks]
  constructor
  · intro given
    obtain ⟨⟨there, form⟩, before⟩ := given
    obtain ⟨newer, rfl⟩ := inv name there form
    exact ⟨newer, ⟨(snapshotName_before_iff _ _).mp before, there⟩, rfl⟩
  · rintro ⟨newer, ⟨less, there⟩, rfl⟩
    exact ⟨⟨there, isSnapshotName_snapshotName newer⟩, (snapshotName_before_iff _ _).mpr less⟩

theorem kept_iff (inv : Named files) (ord : Order) (there : snapshotName tick ∈ files) :
    snapshotName tick ∉ surplus store files ord ↔ (newerTicks files tick).ncard < store.maxSnapshots := by
  have member : snapshotName tick ∈ SnapshotStore.entries files ord :=
    (mem_entries ord).mpr ⟨there, isSnapshotName_snapshotName tick⟩
  rw [surplus, notMem_take_iff before_asymm (entries_sorted _ ord) member, newer_entries inv]

theorem mem_written (files : Directory codec) (snapshot : WorldSnapshot) :
    snapshotName tick ∈ written files snapshot ↔ tick = snapshot.tick ∨ snapshotName tick ∈ files := by
  rw [written, AList.mem_insert, AList.mem_insert, snapshotName_injective.eq_iff]
  simp only [snapshotName_ne_latest, false_or]

theorem newerTicks_written (files : Directory codec) (snapshot : WorldSnapshot) :
    newerTicks (written files snapshot) snapshot.tick = newerTicks files snapshot.tick := by
  ext tick
  simp only [newerTicks, Set.mem_ofPred_eq, mem_written]
  constructor
  · intro given
    obtain ⟨newer, there⟩ := given
    cases there with
    | inl same => exact absurd newer (same ▸ UInt64.lt_irrefl _)
    | inr old => exact ⟨newer, old⟩
  · exact fun ⟨newer, old⟩ => ⟨newer, .inr old⟩

theorem readLatest_iff_newer {faults : Faults} {ord : Order} {snapshot : WorldSnapshot} {path : String}
    (inv : Named files) (done : (store.write faults ord files snapshot).1 = .ok path) :
    SnapshotStore.readLatest (store.write faults ord files snapshot).2 = .ok (some snapshot) ↔
      (newerTicks files snapshot.tick).ncard < store.maxSnapshots := by
  have there : snapshotName snapshot.tick ∈ written files snapshot := (mem_written _ _).mpr (.inl rfl)
  rw [readLatest_write_iff done, kept_iff (inv.written snapshot) ord there, newerTicks_written]

/-- A write that succeeds can be read back exactly when the directory has too few newer snapshots to push it out. -/
theorem latest_readable_iff (codec : Codec) (store : SnapshotStore) (p : Process codec)
    (reachable : ProcessReachable store p) (faults : Faults) (dirOrder actorOrder : Order) (now : UInt64)
    (path : String)
    (done : (store.write faults dirOrder p.files (p.engine.worldSnapshotForPersist actorOrder now)).1 = .ok path) :
    SnapshotStore.readLatest
        (store.write faults dirOrder p.files (p.engine.worldSnapshotForPersist actorOrder now)).2 =
        .ok (some (p.engine.worldSnapshotForPersist actorOrder now)) ↔
      (newerTicks p.files p.engine.tickCount).ncard < store.maxSnapshots :=
  readLatest_iff_newer (named_reachable reachable) done

/-! ## Writes without faults -/

theorem removeFiles_ok {faults : Faults} (sound : ∀ k, faults k = false) (k : Nat) (names : List String) :
    (store.removeFiles faults k names files).1 = .ok () := by
  induction names generalizing k files with
  | nil => rfl
  | cons first rest ih =>
      rw [SnapshotStore.removeFiles, sound k, if_neg Bool.false_ne_true]
      exact ih (k + 1)

theorem write_ok {faults : Faults} (sound : ∀ k, faults k = false) (ord : Order) (files : Directory codec)
    (snapshot : WorldSnapshot) :
    (store.write faults ord files snapshot).1 = .ok (store.path (snapshotName snapshot.tick)) := by
  have pruned : (store.pruneOldSnapshots faults ord (written files snapshot)).1 = .ok () := by
    simp only [SnapshotStore.pruneOldSnapshots, sound, Bool.false_eq_true, if_false]
    split_ifs
    · exact removeFiles_ok sound 3 _
    · rfl
  simp only [SnapshotStore.write, sound, Bool.false_eq_true, if_false]
  rw [← written, pruned]
  rfl

/-! ## A restart

After `n` ticks with a snapshot each, the directory holds the ticks `1` to `n`. The next lifetime starts at
tick 0 again, and its first snapshot is the oldest of all.
-/

def calm : Faults := fun _ => false

theorem calm_sound (k : Nat) : calm k = false := rfl

def lifetime (store : SnapshotStore) : Nat → Process tagged
  | 0 => ⟨WorldEngine.new .default, ∅⟩
  | n + 1 =>
      ((lifetime store n).next store (.call (.tick .stored fun _ => 0))).next store (.persist calm .stored .stored 0)

theorem lifetime_reachable (store : SnapshotStore) (n : Nat) : ProcessReachable store (lifetime store n) := by
  induction n with
  | zero => exact .start ⟨.default, rfl⟩
  | succ n ih => exact .step (.step ih trivial rfl) trivial rfl

theorem lifetime_tickCount (store : SnapshotStore) (n : Nat) :
    (lifetime store n).engine.tickCount = UInt64.ofNat n := by
  induction n with
  | zero => rfl
  | succ n ih =>
      have finished := Engine.finished_tick (lifetime store n).engine .stored fun _ => 0
      have effected := Engine.effected_applyEffects (lifetime store n).engine .stored
      rw [UInt64.ofNat_add, ← ih]
      exact finished.tickCount.trans effected.tickCount

theorem ncard_between {a b : Nat} (small : b < 2 ^ 64) :
    { t : UInt64 | a < t.toNat ∧ t.toNat ≤ b }.ncard = b - a := by
  have image : UInt64.toNat '' { t : UInt64 | a < t.toNat ∧ t.toNat ≤ b } = Finset.Ioc a b := by
    ext n
    simp only [Set.mem_image, Set.mem_ofPred_eq, Finset.coe_Ioc, Set.mem_Ioc]
    constructor
    · rintro ⟨t, between, rfl⟩
      exact between
    · intro between
      have number : (UInt64.ofNat n).toNat = n := UInt64.toNat_ofNat_of_lt' (between.2.trans_lt small)
      exact ⟨UInt64.ofNat n, number.symm ▸ between, number⟩
  rw [← Set.ncard_image_of_injective _ (fun _ _ same => UInt64.toNat_inj.mp same), image, Set.ncard_coe_finset,
    Nat.card_Ioc]

theorem mem_write {faults : Faults} {ord : Order} {snapshot : WorldSnapshot} {path : String}
    (done : (store.write faults ord files snapshot).1 = .ok path) (name : String) :
    name ∈ (store.write faults ord files snapshot).2 ↔
      name ∈ written files snapshot ∧ name ∉ surplus store (written files snapshot) ord := by
  rw [← AList.lookup_isSome, ← AList.lookup_isSome, write_lookup done]
  split_ifs with removed <;> simp [removed]

theorem lifetime_files {n : Nat} (few : n ≤ store.maxSnapshots) (small : n < 2 ^ 64) (tick : UInt64) :
    snapshotName tick ∈ (lifetime store n).files ↔ 0 < tick.toNat ∧ tick.toNat ≤ n := by
  induction n generalizing tick with
  | zero =>
      rw [lifetime]
      simp only [AList.notMem_empty, false_iff]
      omega
  | succ n ih =>
      let snapshot := (lifetime store (n + 1)).engine.worldSnapshotForPersist .stored 0
      have number : snapshot.tick.toNat = n + 1 := by
        rw [show snapshot.tick = UInt64.ofNat (n + 1) from lifetime_tickCount store (n + 1)]
        exact UInt64.toNat_ofNat_of_lt' small
      have there (t : UInt64) : snapshotName t ∈ written (lifetime store n).files snapshot ↔
          0 < t.toNat ∧ t.toNat ≤ n + 1 := by
        rw [mem_written, ih (by omega) (by omega), ← UInt64.toNat_inj, number]
        omega
      have inv := (named_reachable (lifetime_reachable store n)).written snapshot
      change snapshotName tick ∈ (store.write calm .stored (lifetime store n).files snapshot).2 ↔ _
      rw [mem_write (write_ok calm_sound _ _ _), ← there, and_iff_left_iff_imp]
      intro member
      rw [kept_iff inv _ member]
      -- the newer ones are among `2` to `n + 1`
      have newer : newerTicks (written (lifetime store n).files snapshot) tick ⊆
          { t : UInt64 | 1 < t.toNat ∧ t.toNat ≤ n + 1 } := by
        intro t given
        obtain ⟨later, present⟩ := given
        have positive := ((there tick).mp member).1
        have bound := ((there t).mp present).2
        rw [UInt64.lt_iff_toNat_lt] at later
        exact ⟨by omega, bound⟩
      calc (newerTicks (written (lifetime store n).files snapshot) tick).ncard
          ≤ _ := Set.ncard_le_ncard newer (Set.toFinite _)
        _ = n + 1 - 1 := ncard_between small
        _ < store.maxSnapshots := few

theorem restart_pushes_out (many : store.maxSnapshots < 2 ^ 64) :
    let p := (lifetime store store.maxSnapshots).next store (.restart .default)
    SnapshotStore.readLatest
        (store.write calm .stored p.files (p.engine.worldSnapshotForPersist .stored 0)).2 ≠
      .ok (some (p.engine.worldSnapshotForPersist .stored 0)) := by
  intro p
  have reachable : ProcessReachable store p := .step (lifetime_reachable store store.maxSnapshots) trivial rfl
  have newer : newerTicks p.files 0 = { t : UInt64 | 0 < t.toNat ∧ t.toNat ≤ store.maxSnapshots } := by
    ext t
    change 0 < t ∧ snapshotName t ∈ (lifetime store store.maxSnapshots).files ↔ _
    rw [lifetime_files le_rfl many, UInt64.lt_iff_toNat_lt]
    exact and_iff_right_of_imp And.left
  rw [Ne, readLatest_iff_newer (named_reachable reachable) (write_ok calm_sound _ _ _)]
  change ¬(newerTicks p.files 0).ncard < store.maxSnapshots
  rw [newer, ncard_between many]
  exact Nat.lt_irrefl _

-- the store that `main` opens
def snapshots : SnapshotStore := ⟨"data/snapshots", 5⟩

theorem latest_readable_after_tick :
    SnapshotStore.readLatest (snapshots.write calm .stored (lifetime snapshots 1).files
        ((lifetime snapshots 1).engine.worldSnapshotForPersist .stored 0)).2 =
      .ok (some ((lifetime snapshots 1).engine.worldSnapshotForPersist .stored 0)) := by
  apply (latest_readable_iff tagged snapshots _ (lifetime_reachable snapshots 1) calm .stored .stored 0 _
    (write_ok calm_sound _ _ _)).mpr
  have none : newerTicks (lifetime snapshots 1).files (lifetime snapshots 1).engine.tickCount = ∅ := by
    rw [Set.eq_empty_iff_forall_notMem, lifetime_tickCount]
    intro t given
    obtain ⟨newer, there⟩ := given
    rw [lifetime_files (by decide) (by norm_num)] at there
    rw [UInt64.lt_iff_toNat_lt] at newer
    exact absurd newer (Nat.not_lt.mpr there.2)
  rw [none, Set.ncard_empty]
  decide

theorem latest_lost_after_restart :
    ¬∀ p : Process tagged, ProcessReachable snapshots p → ∀ faults dirOrder actorOrder now path,
      (snapshots.write faults dirOrder p.files (p.engine.worldSnapshotForPersist actorOrder now)).1 = .ok path →
      SnapshotStore.readLatest
          (snapshots.write faults dirOrder p.files (p.engine.worldSnapshotForPersist actorOrder now)).2 =
        .ok (some (p.engine.worldSnapshotForPersist actorOrder now)) := by
  intro claim
  have reachable : ProcessReachable snapshots ((lifetime snapshots 5).next snapshots (.restart .default)) :=
    .step (lifetime_reachable snapshots 5) trivial rfl
  exact restart_pushes_out (by norm_num [snapshots])
    (claim _ reachable calm .stored .stored 0 _ (write_ok calm_sound _ _ _))

end LiveWorld.Proof.Durability

import LiveWorld.Spec.Cache

/-!
# The most recently used keys

The cache moves the key of an answered request to the front, as a cache that knows only the keys does.
-/

namespace LiveWorld.Proof.Cache
open HashTable Spec
variable {ahash : Hasher} {capacity : Nat} {s : LoggedCache} {call : CacheCall}

/-! ## One call -/

/-- What one call does to the cache and to the log. -/
inductive Completed (ahash : Hasher) (s : LoggedCache) (call : CacheCall) : LoggedCache → Prop
  | hit {resp : LlmResponse} : s.cache.entries.lookup (hashRequest ahash call.req) = some resp →
      Completed ahash s call
        { s with
          cache := { s.cache with hits := s.cache.hits + 1 }.touch (hashRequest ahash call.req)
          uses := s.uses ++ [hashRequest ahash call.req] }
  | stored {resp : LlmResponse} : hashRequest ahash call.req ∉ s.cache.entries → call.adapter call.req = .ok resp →
      Completed ahash s call
        { cache := { s.cache with misses := s.cache.misses + 1 }.insert (hashRequest ahash call.req) resp
          uses := s.uses ++ [hashRequest ahash call.req]
          stored := (hashRequest ahash call.req, resp) :: s.stored }
  | failed {e : LlmError} : hashRequest ahash call.req ∉ s.cache.entries → call.adapter call.req = .error e →
      Completed ahash s call { s with cache := { s.cache with misses := s.cache.misses + 1 } }

theorem completed (ahash : Hasher) (s : LoggedCache) (call : CacheCall) :
    Completed ahash s call (s.complete ahash call) := by
  cases found : s.cache.entries.lookup (hashRequest ahash call.req) with
  | some resp =>
      have same : s.complete ahash call =
          { s with
            cache := { s.cache with hits := s.cache.hits + 1 }.touch (hashRequest ahash call.req)
            uses := s.uses ++ [hashRequest ahash call.req] } := by
        simp only [LoggedCache.complete, SemanticCache.complete, found]
        rfl
      rw [same]
      exact .hit found
  | none =>
      have absent := AList.lookup_eq_none.mp found
      cases answer : call.adapter call.req with
      | ok resp =>
          have same : s.complete ahash call =
              { cache := { s.cache with misses := s.cache.misses + 1 }.insert (hashRequest ahash call.req) resp
                uses := s.uses ++ [hashRequest ahash call.req]
                stored := (hashRequest ahash call.req, resp) :: s.stored } := by
            simp only [LoggedCache.complete, SemanticCache.complete, found, answer]
            rfl
          rw [same]
          exact .stored absent answer
      | error e =>
          have same : s.complete ahash call = { s with cache := { s.cache with misses := s.cache.misses + 1 } } := by
            simp only [LoggedCache.complete, SemanticCache.complete, found, answer]
            rfl
          rw [same]
          exact .failed absent answer

/-! ## The keys it holds -/

/-- The map holds the keys of the list. -/
structure Indexed (cache : SemanticCache) : Prop where
  same_keys : ∀ key, key ∈ cache.entries ↔ key ∈ cache.lruOrder
  distinct : cache.lruOrder.Nodup

theorem Indexed.size_eq {cache : SemanticCache} (inv : Indexed cache) :
    HashMap.size cache.entries = cache.lruOrder.length := by
  have perm : cache.entries.keys.Perm cache.lruOrder :=
    (List.perm_ext_iff_of_nodup cache.entries.keys_nodup inv.distinct).mpr fun key =>
      AList.mem_keys.symm.trans (inv.same_keys key)
  rw [HashMap.size_eq_keys, perm.length_eq]

theorem touch_held (cache : SemanticCache) {key : UInt64} (member : key ∈ cache.lruOrder) :
    cache.touch key = { cache with lruOrder := key :: cache.lruOrder.erase key } :=
  if_pos member

theorem evict_full {cache : SemanticCache} {n : Nat} (inv : Indexed cache) (full : cache.lruOrder.length = n + 1) :
    cache.evict.lruOrder = cache.lruOrder.take n ∧ (∀ key, key ∈ cache.evict.entries ↔ key ∈ cache.lruOrder.take n) ∧
      ∀ key ∈ cache.evict.entries, cache.evict.entries.lookup key = cache.entries.lookup key := by
  have nonempty : cache.lruOrder ≠ [] := by
    rw [← List.length_pos_iff, full]
    exact Nat.succ_pos n
  obtain ⟨kept, last, split⟩ := (List.eq_nil_or_concat' cache.lruOrder).resolve_left nonempty
  have length : kept.length = n := by simpa [split] using full
  have taken : cache.lruOrder.take n = kept := by rw [split, ← length, List.take_left]
  have evicted : cache.evict = { cache with lruOrder := kept, entries := cache.entries.erase last } := by
    simp [SemanticCache.evict, split]
  have absent : last ∉ kept := by
    have distinct := inv.distinct
    rw [split, List.nodup_append] at distinct
    exact fun there => distinct.2.2 last there last (List.mem_singleton_self last) rfl
  rw [evicted, taken]
  refine ⟨rfl, fun key => ?_, fun key member => ?_⟩
  · change key ∈ cache.entries.erase last ↔ key ∈ kept
    rw [AList.mem_erase, inv.same_keys, split, List.mem_append, List.mem_singleton]
    constructor
    · rintro ⟨other, held | same⟩
      · exact held
      · exact absurd same other
    · intro held
      exact ⟨fun same => absent (same ▸ held), .inl held⟩
  · exact AList.lookup_erase_ne (AList.mem_erase.mp member).1

theorem insert_capacity (cache : SemanticCache) (key : UInt64) (resp : LlmResponse) :
    (cache.insert key resp).capacity = cache.capacity := by
  unfold SemanticCache.insert SemanticCache.evict
  split_ifs
  · split <;> rfl
  · rfl

/-- A key that was not held comes first, and what does not fit any more goes. -/
theorem insert_new {cache : SemanticCache} {n : Nat} (key : UInt64) (inv : Indexed cache)
    (capacity : cache.capacity = n + 1) (bounded : cache.lruOrder.length ≤ n + 1) (resp : LlmResponse) :
    (cache.insert key resp).lruOrder = key :: cache.lruOrder.take n ∧
      (∀ other, other ∈ (cache.insert key resp).entries ↔ other = key ∨ other ∈ cache.lruOrder.take n) ∧
      (cache.insert key resp).entries.lookup key = some resp ∧
      ∀ other ∈ (cache.insert key resp).entries, other ≠ key →
        (cache.insert key resp).entries.lookup other = cache.entries.lookup other := by
  unfold SemanticCache.insert
  rw [inv.size_eq, capacity]
  by_cases full : cache.lruOrder.length = n + 1
  · obtain ⟨order, keys, lookups⟩ := evict_full inv full
    rw [if_pos full.ge]
    refine ⟨congrArg (key :: ·) order, fun other => ?_, AList.lookup_insert _, fun other member differ => ?_⟩
    · rw [AList.mem_insert, keys]
    · rw [AList.mem_insert] at member
      rw [AList.lookup_insert_ne differ]
      exact lookups other (member.resolve_left differ)
  · have room : cache.lruOrder.length ≤ n := by omega
    rw [if_neg (by omega), List.take_of_length_le room]
    refine ⟨rfl, fun other => ?_, AList.lookup_insert _, fun other _ differ => AList.lookup_insert_ne differ⟩
    rw [AList.mem_insert, inv.same_keys]

/-! ## Whole runs -/

structure Recorded (capacity : Nat) (s : LoggedCache) : Prop where
  limit : s.cache.capacity = capacity
  same_keys : ∀ key, key ∈ s.cache.entries ↔ key ∈ s.cache.lruOrder
  recent : s.cache.lruOrder = (Recency.order s.uses).take capacity
  latest : ∀ key ∈ s.cache.entries, s.stored.lookup key = s.cache.entries.lookup key

theorem Recorded.indexed (inv : Recorded capacity s) : Indexed s.cache := by
  refine ⟨inv.same_keys, ?_⟩
  rw [inv.recent]
  exact (Recency.nodup_order s.uses).sublist (List.take_sublist _ _)

theorem Recorded.bounded (inv : Recorded capacity s) : s.cache.lruOrder.length ≤ capacity := by
  rw [inv.recent]
  exact List.length_take_le _ _

theorem recorded_new (capacity : Nat) : Recorded capacity (.new capacity) := by
  refine ⟨rfl, fun key => ?_, (List.take_nil).symm, fun key member => absurd member (AList.notMem_empty key)⟩
  exact iff_of_false (AList.notMem_empty key) List.not_mem_nil

theorem Recorded.complete (inv : Recorded (capacity + 1) s) (ahash : Hasher) (call : CacheCall) :
    Recorded (capacity + 1) (s.complete ahash call) := by
  have done := completed ahash s call
  generalize s.complete ahash call = after at done
  cases done with
  | hit found =>
      have member := (inv.same_keys _).mp (HashMap.mem_of_lookup found)
      rw [touch_held { s.cache with hits := s.cache.hits + 1 } member]
      refine ⟨inv.limit, fun key => ?_, ?_, inv.latest⟩
      · rw [inv.same_keys]
        by_cases same : key = hashRequest ahash call.req
        · rw [same]
          exact iff_of_true member List.mem_cons_self
        · rw [List.mem_cons, List.mem_erase_of_ne same]
          exact (or_iff_right same).symm
      · rw [← Recency.use_take_order, ← inv.recent, Recency.use_mem member inv.bounded]
  | @stored resp absent answer =>
      have fresh : hashRequest ahash call.req ∉ s.cache.lruOrder := fun there => absent ((inv.same_keys _).mpr there)
      have indexed : Indexed { s.cache with misses := s.cache.misses + 1 } := ⟨inv.same_keys, inv.indexed.distinct⟩
      obtain ⟨order, keys, new, lookups⟩ := insert_new (hashRequest ahash call.req) indexed inv.limit inv.bounded resp
      refine ⟨insert_capacity .. |>.trans inv.limit, fun key => ?_, ?_, fun key member => ?_⟩
      · rw [order, List.mem_cons]
        exact keys key
      · rw [order, ← Recency.use_take_order, ← inv.recent, Recency.use_new fresh]
      · change List.lookup key ((hashRequest ahash call.req, resp) :: s.stored) = _
        by_cases same : key = hashRequest ahash call.req
        · rw [same, List.lookup_cons_self]
          exact new.symm
        · have old : key ∈ s.cache.entries :=
            (inv.same_keys key).mpr (List.mem_of_mem_take (((keys key).mp member).resolve_left same))
          rw [lookups key member same, ← inv.latest key old, List.lookup_cons, beq_false_of_ne same]
  | failed absent answer => exact ⟨inv.limit, inv.same_keys, inv.recent, inv.latest⟩

theorem recorded_completeAll (ahash : Hasher) (capacity : Nat) (calls : List CacheCall) :
    Recorded (capacity + 1) (.completeAll ahash (capacity + 1) calls) :=
  List.foldlRecOn calls (LoggedCache.complete ahash) (recorded_new (capacity + 1))
    fun _ inv call _ => inv.complete ahash call

theorem Recorded.isLru (inv : Recorded capacity s) (ahash : Hasher) : IsLru ahash capacity s := by
  refine ⟨inv.same_keys, inv.indexed.distinct, inv.bounded, inv.recent, fun call member => ?_,
    fun call e absent answer => ?_⟩
  · obtain ⟨resp, found⟩ := HashMap.lookup_of_mem member
    refine ⟨resp, (inv.latest _ member).trans found, ?_⟩
    rw [SemanticCache.complete, found]
    exact ⟨rfl, rfl⟩
  · rw [SemanticCache.complete, AList.lookup_eq_none.mpr absent, answer]
    exact ⟨rfl, rfl⟩

/-! ## The counters -/

theorem evict_counters (cache : SemanticCache) :
    cache.evict.hits = cache.hits ∧ cache.evict.misses = cache.misses := by
  unfold SemanticCache.evict
  split <;> exact ⟨rfl, rfl⟩

theorem counters_complete (ahash : Hasher) (s : LoggedCache) (call : CacheCall) :
    ((s.complete ahash call).cache.hits = s.cache.hits + 1 ∧ (s.complete ahash call).cache.misses = s.cache.misses) ∨
      ((s.complete ahash call).cache.hits = s.cache.hits ∧
        (s.complete ahash call).cache.misses = s.cache.misses + 1) := by
  have done := completed ahash s call
  generalize s.complete ahash call = after at done
  cases done with
  | hit found =>
      unfold SemanticCache.touch
      split_ifs <;> exact .inl ⟨rfl, rfl⟩
  | stored absent answer =>
      unfold SemanticCache.insert
      split_ifs
      · exact .inr (evict_counters _)
      · exact .inr ⟨rfl, rfl⟩
  | failed absent answer => exact .inr ⟨rfl, rfl⟩

/-- Each call is counted once, up to the overflow of a counter. -/
structure Counted (calls : Nat) (cache : SemanticCache) : Prop where
  wrapped : cache.hits + cache.misses = UInt64.ofNat calls
  few : cache.hits.toNat + cache.misses.toNat ≤ calls

theorem toNat_succ_le (count : UInt64) : (count + 1).toNat ≤ count.toNat + 1 := by
  rw [UInt64.toNat_add]
  exact Nat.mod_le _ _

theorem Counted.complete {calls : Nat} (inv : Counted calls s.cache) (ahash : Hasher) (call : CacheCall) :
    Counted (calls + 1) (s.complete ahash call).cache := by
  obtain ⟨wrapped, few⟩ := inv
  rcases counters_complete ahash s call with ⟨hits, misses⟩ | ⟨hits, misses⟩
  · have bound := toNat_succ_le s.cache.hits
    refine ⟨?_, ?_⟩
    · rw [hits, misses, UInt64.ofNat_add, ← wrapped]
      exact add_right_comm _ _ _
    · rw [hits, misses]
      omega
  · have bound := toNat_succ_le s.cache.misses
    refine ⟨?_, ?_⟩
    · rw [hits, misses, UInt64.ofNat_add, ← wrapped]
      exact (add_assoc _ _ _).symm
    · rw [hits, misses]
      omega

theorem counted_completeAll (ahash : Hasher) (capacity : Nat) (calls : List CacheCall) :
    Counted calls.length (LoggedCache.completeAll ahash capacity calls).cache := by
  induction calls using List.reverseRecOn with
  | nil => exact ⟨rfl, Nat.le_refl 0⟩
  | append_singleton calls call ih =>
      rw [LoggedCache.completeAll, List.foldl_append, List.length_append]
      exact ih.complete ahash call

theorem Counted.countsAll {calls : Nat} (inv : Counted calls s.cache) (small : calls < 2 ^ 64) : CountsAll s calls := by
  have number := congrArg UInt64.toNat inv.wrapped
  rw [UInt64.toNat_add, UInt64.toNat_ofNat', Nat.mod_eq_of_lt small,
    Nat.mod_eq_of_lt (Nat.lt_of_le_of_lt inv.few small)] at number
  exact number

/-- A counter holds less than 2^64. -/
theorem not_countsAll (s : LoggedCache) {calls : Nat} (many : 2 ^ 65 ≤ calls) : ¬CountsAll s calls := by
  intro counts
  unfold CountsAll at counts
  have hits := s.cache.hits.toNat_lt
  have misses := s.cache.misses.toNat_lt
  omega

theorem cache_is_lru (ahash : Hasher) {capacity : Nat} (positive : 1 ≤ capacity) (calls : List CacheCall) :
    IsLru ahash capacity (.completeAll ahash capacity calls) ∧
      (LoggedCache.completeAll ahash capacity calls).cache.hits +
        (LoggedCache.completeAll ahash capacity calls).cache.misses = UInt64.ofNat calls.length ∧
      (calls.length < 2 ^ 64 → CountsAll (.completeAll ahash capacity calls) calls.length) := by
  obtain ⟨n, rfl⟩ := Nat.exists_eq_succ_of_ne_zero (Nat.one_le_iff_ne_zero.mp positive)
  have counted := counted_completeAll ahash (n + 1) calls
  exact ⟨(recorded_completeAll ahash n calls).isLru ahash, counted.wrapped, counted.countsAll⟩

/-! ## Prompts of different lengths -/

def lengths : Hasher := fun texts => UInt64.ofNat (texts.getLast?.elim 0 String.length)

def ask (prompt : String) : CacheCall where
  req := ⟨.Gpt4o, "You are a ranger", prompt, 128⟩
  adapter _ := .ok ⟨"MOVE 2000,500", .Gpt4o, 12⟩

theorem cache_of_two_is_lru :
    (LoggedCache.completeAll lengths 2 ([" ", "go", " ", "run"].map ask)).cache.lruOrder = [3, 1] ∧
      IsLru lengths 2 (.completeAll lengths 2 ([" ", "go", " ", "run"].map ask)) ∧
      CountsAll (.completeAll lengths 2 ([" ", "go", " ", "run"].map ask)) 4 := by
  obtain ⟨lru, -, counted⟩ := cache_is_lru lengths (by decide : 1 ≤ 2) ([" ", "go", " ", "run"].map ask)
  exact ⟨by decide +kernel, lru, counted (by decide)⟩

theorem counters_wrap :
    ¬(IsLru lengths 1 (.completeAll lengths 1 (List.replicate (2 ^ 65) (ask "go"))) ∧
      CountsAll (.completeAll lengths 1 (List.replicate (2 ^ 65) (ask "go")))
        (List.replicate (2 ^ 65) (ask "go")).length) := by
  rintro ⟨-, counts⟩
  rw [List.length_replicate] at counts
  exact not_countsAll _ (Nat.le_refl _) counts

end LiveWorld.Proof.Cache

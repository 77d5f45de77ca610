import LiveWorld.Lib.HashTable

/-!
# Maps of values that know their key

A `KeyedMap key` holds each value `v` under `key v`. The bulk operations are folds over lists, and each
of them has one lemma that says what it does to a single key.
-/

namespace HashTable

structure KeyedMap {K V : Type} [DecidableEq K] (key : V → K) where
  table : HashMap K V
  keyed : ∀ k v, table.lookup k = some v → key v = k

namespace KeyedMap
variable {K V : Type} [DecidableEq K] {key : V → K}

def empty : KeyedMap key := ⟨∅, fun k v found => by simp at found⟩

def lookup (m : KeyedMap key) (k : K) : Option V := m.table.lookup k

instance : Membership K (KeyedMap key) := ⟨fun m k => k ∈ m.table⟩

instance (k : K) (m : KeyedMap key) : Decidable (k ∈ m) := inferInstanceAs (Decidable (k ∈ m.table))

def values (ord : Order) (m : KeyedMap key) : List V := HashMap.values ord m.table

def keys (ord : Order) (m : KeyedMap key) : List K := ord.visit m.table.keys

def insert (m : KeyedMap key) (v : V) : KeyedMap key where
  table := m.table.insert (key v) v
  keyed := by
    intro k w found
    rw [HashMap.lookup_insert_eq] at found
    split_ifs at found with same
    · cases found
      exact same.symm
    · exact m.keyed k w found

def erase (m : KeyedMap key) (k : K) : KeyedMap key where
  table := m.table.erase k
  keyed := by
    intro j w found
    rw [HashMap.lookup_erase_eq] at found
    split_ifs at found
    exact m.keyed j w found

-- `entry(key v).or_insert(v)`
def orInsert (m : KeyedMap key) (v : V) : KeyedMap key := if key v ∈ m then m else m.insert v

theorem lookup_filter (p : K → Bool) (entries : HashMap K V) (nodup : (entries.entries.filter fun e => p e.1).NodupKeys)
    (k : K) : (⟨entries.entries.filter fun e => p e.1, nodup⟩ : HashMap K V).lookup k =
      if p k then entries.lookup k else none := by
  apply Option.ext
  intro v
  rw [← HashMap.mem_entries_iff, List.mem_filter, HashMap.mem_entries_iff]
  cases p k <;> simp

def retain (p : K → Bool) (m : KeyedMap key) : KeyedMap key where
  table := ⟨m.table.entries.filter fun e => p e.1, .sublist List.filter_sublist m.table.nodupKeys⟩
  keyed := by
    intro k v found
    rw [lookup_filter] at found
    split_ifs at found
    exact m.keyed k v found

/-! ## What each operation does to a key -/

theorem mem_iff {m : KeyedMap key} {k : K} : k ∈ m ↔ ∃ v, m.lookup k = some v := HashMap.mem_iff_lookup

theorem not_mem_iff {m : KeyedMap key} {k : K} : k ∉ m ↔ m.lookup k = none := AList.lookup_eq_none.symm

theorem mem_iff_isSome {m : KeyedMap key} {k : K} : k ∈ m ↔ (m.lookup k).isSome := AList.lookup_isSome.symm

theorem not_mem_empty (k : K) : k ∉ (empty : KeyedMap key) := AList.notMem_empty k

@[simp] theorem lookup_empty (k : K) : (empty : KeyedMap key).lookup k = none := AList.lookup_empty k

theorem lookup_key {m : KeyedMap key} {k : K} {v : V} (found : m.lookup k = some v) : m.lookup (key v) = some v := by
  rw [m.keyed k v found]
  exact found

theorem mem_values {ord : Order} {m : KeyedMap key} {v : V} : v ∈ m.values ord ↔ m.lookup (key v) = some v := by
  constructor
  · intro member
    obtain ⟨k, found⟩ := HashMap.mem_values.mp member
    exact lookup_key found
  · intro found
    exact HashMap.mem_values.mpr ⟨key v, found⟩

theorem nodup_values (ord : Order) (m : KeyedMap key) : ((m.values ord).map key).Nodup := by
  have keys : (m.values ord).map key = (ord.visit m.table.entries).keys := by
    rw [values, HashMap.values, List.map_map, List.keys]
    apply List.map_congr_left
    intro entry member
    exact m.keyed entry.1 entry.2 (HashMap.mem_entries_iff.mp (ord.mem_visit.mp member))
  rw [keys]
  exact ((ord.perm m.table.entries).map Sigma.fst).nodup_iff.mpr m.table.nodupKeys

theorem mem_keys {ord : Order} {m : KeyedMap key} {k : K} : k ∈ m.keys ord ↔ k ∈ m := ord.mem_visit

@[simp] theorem lookup_insert (m : KeyedMap key) (v : V) (k : K) :
    (m.insert v).lookup k = if k = key v then some v else m.lookup k :=
  HashMap.lookup_insert_eq _ _ _ _

@[simp] theorem lookup_erase (m : KeyedMap key) (k j : K) :
    (m.erase k).lookup j = if j = k then none else m.lookup j :=
  HashMap.lookup_erase_eq _ _ _

@[simp] theorem lookup_orInsert (m : KeyedMap key) (v : V) (k : K) :
    (m.orInsert v).lookup k = (m.lookup k).or (if k = key v then some v else none) := by
  unfold orInsert
  split_ifs with present mine mine
  · obtain ⟨w, found⟩ := mem_iff.mp present
    rw [mine, found, Option.some_or]
  · rw [Option.or_none]
  · rw [lookup_insert, if_pos mine, mine, not_mem_iff.mp present, Option.none_or]
  · rw [lookup_insert, if_neg mine, Option.or_none]

@[simp] theorem lookup_retain (p : K → Bool) (m : KeyedMap key) (k : K) :
    (m.retain p).lookup k = if p k then m.lookup k else none :=
  lookup_filter p m.table _ k

/-! ## Bulk operations -/

theorem lookup_eraseAll (ks : List K) (m : KeyedMap key) (k : K) :
    (ks.foldl erase m).lookup k = if k ∈ ks then none else m.lookup k := by
  induction ks generalizing m with
  | nil => simp
  | cons first rest ih =>
      rw [List.foldl_cons, ih, lookup_erase]
      by_cases now : k = first <;> by_cases later : k ∈ rest <;> simp [now, later]

theorem lookup_orInsertAll (vs : List V) (m : KeyedMap key) (k : K) :
    (vs.foldl orInsert m).lookup k = (m.lookup k).or (vs.find? fun v => key v = k) := by
  induction vs generalizing m with
  | nil => simp
  | cons first rest ih =>
      rw [List.foldl_cons, ih, lookup_orInsert, Option.or_assoc]
      congr 1
      by_cases mine : k = key first
      · simp [mine]
      · simp [mine, show ¬key first = k from fun same => mine same.symm]

theorem mem_insertAll {vs : List V} {m : KeyedMap key} {k : K} :
    k ∈ vs.foldl insert m ↔ (∃ v ∈ vs, key v = k) ∨ k ∈ m := by
  induction vs generalizing m with
  | nil => simp
  | cons first rest ih =>
      have here : k ∈ m.insert first ↔ k = key first ∨ k ∈ m := AList.mem_insert _
      rw [List.foldl_cons, ih, here]
      simp only [List.mem_cons, exists_eq_or_imp, or_assoc, eq_comm (a := k)]
      exact or_left_comm

theorem lookup_insertAll_absent {vs : List V} {k : K} (absent : ∀ v ∈ vs, key v ≠ k) (m : KeyedMap key) :
    (vs.foldl insert m).lookup k = m.lookup k := by
  induction vs generalizing m with
  | nil => rfl
  | cons first rest ih =>
      have here := absent first List.mem_cons_self
      rw [List.foldl_cons, ih fun v member => absent v (List.mem_cons_of_mem _ member), lookup_insert,
        if_neg here.symm]

theorem lookup_insertAll_mem {vs : List V} (distinct : (vs.map key).Nodup) {v : V} (member : v ∈ vs)
    (m : KeyedMap key) : (vs.foldl insert m).lookup (key v) = some v := by
  induction vs generalizing m with
  | nil => cases member
  | cons first rest ih =>
      rw [List.map_cons, List.nodup_cons] at distinct
      rcases List.mem_cons.mp member with rfl | later
      · have unique : ∀ w ∈ rest, key w ≠ key v := fun w there same =>
          distinct.1 (same ▸ List.mem_map_of_mem there)
        rw [List.foldl_cons, lookup_insertAll_absent unique, lookup_insert, if_pos rfl]
      · exact ih distinct.2 later _

end KeyedMap

end HashTable

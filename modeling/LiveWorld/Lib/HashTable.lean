import Mathlib

/-!
# Hash tables with an unspecified iteration order

A hash map is a finite map; the order in which its entries come out is up to the hasher. `HashMap`
keeps the entries as an association list with distinct keys, and everything that walks over a map
goes through an `Order`, which may rearrange the entries in any way. A statement about all orders is
a statement about every hasher.
-/

namespace HashTable

abbrev HashMap (K V : Type) := AList fun _ : K => V

abbrev HashSet (K : Type) := HashMap K Unit

/-- The choices a hasher makes: each traversal of `l` visits `visit l`. -/
structure Order : Type 1 where
  visit : {α : Type} → List α → List α
  perm : ∀ {α : Type} (l : List α), (visit l).Perm l

def Order.stored : Order := ⟨fun l => l, fun _ => .refl _⟩

@[simp] theorem Order.mem_visit (ord : Order) {α : Type} {l : List α} {a : α} :
    a ∈ ord.visit l ↔ a ∈ l :=
  (ord.perm l).mem_iff

variable {K V : Type}

namespace HashMap

def values (ord : Order) (m : HashMap K V) : List V :=
  (ord.visit m.entries).map Sigma.snd

def size (m : HashMap K V) : Nat := m.entries.length

def mapValues {W : Type} (f : V → W) (m : HashMap K V) : HashMap K W :=
  ⟨m.entries.map (Sigma.map id fun _ => f), m.nodupKeys.map₂ (fun _ => f)⟩

theorem size_eq_keys (m : HashMap K V) : size m = m.keys.length := by
  simp [size, AList.keys, List.keys]

def total (f : V → Nat) (m : HashMap K V) : Nat := (m.entries.map fun entry => f entry.2).sum

theorem sum_values (ord : Order) (f : V → Nat) (m : HashMap K V) :
    ((values ord m).map f).sum = total f m := by
  rw [values, List.map_map]
  exact ((ord.perm m.entries).map _).sum_eq

variable [DecidableEq K]

theorem mem_entries_iff {m : HashMap K V} {k : K} {v : V} :
    (⟨k, v⟩ : (_ : K) × V) ∈ m.entries ↔ m.lookup k = some v :=
  AList.mem_lookup_iff.symm

theorem mem_of_lookup {m : HashMap K V} {k : K} {v : V} (found : m.lookup k = some v) : k ∈ m := by
  rw [← AList.lookup_isSome, found]
  rfl

theorem lookup_of_mem {m : HashMap K V} {k : K} (member : k ∈ m) : ∃ v, m.lookup k = some v :=
  Option.isSome_iff_exists.mp (AList.lookup_isSome.mpr member)

theorem mem_iff_lookup {m : HashMap K V} {k : K} : k ∈ m ↔ ∃ v, m.lookup k = some v :=
  ⟨lookup_of_mem, fun ⟨_, found⟩ => mem_of_lookup found⟩

theorem mem_values {ord : Order} {m : HashMap K V} {v : V} :
    v ∈ values ord m ↔ ∃ k, m.lookup k = some v := by
  simp only [values, List.mem_map, Order.mem_visit]
  constructor
  · rintro ⟨⟨k, w⟩, member, rfl⟩
    exact ⟨k, mem_entries_iff.mp member⟩
  · intro given
    obtain ⟨k, found⟩ := given
    exact ⟨⟨k, v⟩, mem_entries_iff.mpr found, rfl⟩

theorem forall_lookup_iff {m : HashMap K V} {P : K → V → Prop} :
    (∀ k v, m.lookup k = some v → P k v) ↔ ∀ entry ∈ m.entries, P entry.1 entry.2 :=
  ⟨fun all entry member => all entry.1 entry.2 (mem_entries_iff.mp member),
    fun all k v found => all ⟨k, v⟩ (mem_entries_iff.mpr found)⟩

@[simp] theorem lookup_mapValues {W : Type} (f : V → W) (m : HashMap K V) (k : K) :
    (mapValues f m).lookup k = (m.lookup k).map f :=
  List.dlookup_map₂ k

@[simp] theorem mem_mapValues {W : Type} (f : V → W) (m : HashMap K V) (k : K) : k ∈ mapValues f m ↔ k ∈ m := by
  rw [← AList.lookup_isSome, ← AList.lookup_isSome, lookup_mapValues, Option.isSome_map]

theorem mapValues_eq_self_iff (f : V → V) (m : HashMap K V) :
    mapValues f m = m ↔ ∀ k v, m.lookup k = some v → f v = v := by
  constructor
  · intro same k v found
    have mapped := lookup_mapValues f m k
    rw [same, found] at mapped
    exact (Option.some.inj mapped).symm
  · intro fixed
    apply AList.ext
    refine (List.map_congr_left fun entry member => ?_).trans (List.map_id _)
    exact Sigma.ext rfl (heq_of_eq (fixed entry.1 entry.2 (mem_entries_iff.mp member)))

theorem lookup_insert_eq (m : HashMap K V) (k j : K) (v : V) :
    (m.insert k v).lookup j = if j = k then some v else m.lookup j := by
  split_ifs with same
  · subst same
    exact AList.lookup_insert m
  · exact AList.lookup_insert_ne same

theorem lookup_insert_absent {m : HashMap K V} {k j : K} {v w : V} (absent : k ∉ m) :
    (m.insert k v).lookup j = some w ↔ (j = k ∧ w = v) ∨ m.lookup j = some w := by
  rw [lookup_insert_eq]
  split_ifs with same
  · subst same
    simp [AList.lookup_eq_none.mpr absent, eq_comm]
  · simp [same]

theorem lookup_erase_eq (m : HashMap K V) (k j : K) :
    (m.erase k).lookup j = if j = k then none else m.lookup j := by
  split_ifs with same
  · subst same
    exact AList.lookup_erase j m
  · exact AList.lookup_erase_ne same

theorem size_insert_of_notMem {m : HashMap K V} {k : K} (fresh : k ∉ m) (v : V) :
    size (m.insert k v) = size m + 1 := by
  rw [size, size, AList.entries_insert_of_notMem fresh, List.length_cons]

theorem size_insert_of_mem {m : HashMap K V} {k : K} (member : k ∈ m) (v : V) :
    size (m.insert k v) = size m := by
  rw [size_eq_keys, size_eq_keys, AList.keys_insert, List.length_cons,
    List.length_erase_of_mem member]
  have : 0 < m.keys.length := List.length_pos_of_mem member
  omega

theorem size_erase_of_mem {m : HashMap K V} {k : K} (member : k ∈ m) :
    size (m.erase k) + 1 = size m := by
  rw [size_eq_keys, size_eq_keys, AList.keys_erase, List.length_erase_of_mem member]
  have : 0 < m.keys.length := List.length_pos_of_mem member
  omega

theorem entries_perm_erase {m : HashMap K V} {k : K} {v : V} (found : m.lookup k = some v) :
    m.entries.Perm (⟨k, v⟩ :: (m.erase k).entries) := by
  obtain ⟨w, before, after, absent, split, rest⟩ := List.exists_of_kerase (mem_of_lookup found)
  have same : w = v := by
    have here : m.lookup k = some w := by
      rw [← mem_entries_iff, split]
      simp
    rw [found] at here
    exact (Option.some.inj here).symm
  change m.entries.Perm (⟨k, v⟩ :: List.kerase k m.entries)
  rw [rest, split, same]
  exact List.perm_middle

theorem total_erase {m : HashMap K V} {k : K} {v : V} (f : V → Nat) (found : m.lookup k = some v) :
    total f (m.erase k) + f v = total f m := by
  have perm := (entries_perm_erase found).map fun entry => f entry.2
  rw [total, total, perm.sum_eq, List.map_cons, List.sum_cons, Nat.add_comm]

theorem total_insert_of_notMem {m : HashMap K V} {k : K} (f : V → Nat) (fresh : k ∉ m) (v : V) :
    total f (m.insert k v) = total f m + f v := by
  rw [total, AList.entries_insert_of_notMem fresh, List.map_cons, List.sum_cons, Nat.add_comm, total]

theorem total_insert_of_lookup {m : HashMap K V} {k : K} {old : V} (f : V → Nat)
    (found : m.lookup k = some old) (v : V) : total f (m.insert k v) + f old = total f m + f v := by
  have erased := total_erase f found
  have inserted : total f (m.insert k v) = f v + total f (m.erase k) := by
    rw [total, AList.entries_insert, List.map_cons, List.sum_cons]
    rfl
  omega

theorem mem_insertAll {α : Type} (key : α → K) (value : α → V) (items : List α) (m : HashMap K V) (k : K) :
    k ∈ items.foldl (fun m a => m.insert (key a) (value a)) m ↔ k ∈ m ∨ ∃ a ∈ items, key a = k := by
  induction items generalizing m with
  | nil => simp
  | cons first rest ih =>
      rw [List.foldl_cons, ih, AList.mem_insert]
      simp only [List.mem_cons, exists_eq_or_imp, eq_comm (a := k)]
      tauto

theorem mem_eraseAll (ks : List K) (m : HashMap K V) (k : K) :
    k ∈ ks.foldl (fun m gone => m.erase gone) m ↔ k ∈ m ∧ k ∉ ks := by
  induction ks generalizing m with
  | nil => simp
  | cons first rest ih =>
      rw [List.foldl_cons, ih, AList.mem_erase, List.mem_cons]
      tauto

/-- Collect a list into a map under the key `key`; a later element replaces an earlier one. -/
def collect (key : V → K) (l : List V) : HashMap K V :=
  l.foldl (fun m v => m.insert (key v) v) ∅

theorem lookup_collect (key : V → K) (l : List V) (k : K) :
    (collect key l).lookup k = (l.reverse.find? fun v => key v = k) := by
  have fold : ∀ m : HashMap K V, (l.foldl (fun m v => m.insert (key v) v) m).lookup k =
      (l.reverse.find? fun v => key v = k).or (m.lookup k) := by
    induction l with
    | nil => exact fun m => rfl
    | cons v rest ih =>
        intro m
        rw [List.foldl_cons, ih, List.reverse_cons, List.find?_append, Option.or_assoc, lookup_insert_eq]
        by_cases mine : k = key v
        · simp [mine]
        · simp [mine, show key v ≠ k from fun h => mine h.symm]
  rw [collect, fold, AList.lookup_empty, Option.or_none]

theorem lookup_collect_some {key : V → K} {l : List V} {k : K} {v : V}
    (found : (collect key l).lookup k = some v) : v ∈ l ∧ key v = k := by
  rw [lookup_collect] at found
  exact ⟨List.mem_reverse.mp (List.mem_of_find?_eq_some found), by simpa using List.find?_some found⟩

theorem mem_collect {key : V → K} {l : List V} {k : K} : k ∈ collect key l ↔ ∃ v ∈ l, key v = k := by
  rw [← AList.lookup_isSome, lookup_collect, List.find?_isSome]
  simp

theorem lookup_collect_of_mem {key : V → K} {l : List V} (distinct : (l.map key).Nodup) {v : V} (member : v ∈ l) :
    (collect key l).lookup (key v) = some v := by
  have present : key v ∈ collect key l := mem_collect.mpr ⟨v, member, rfl⟩
  obtain ⟨w, found⟩ := lookup_of_mem present
  obtain ⟨there, same⟩ := lookup_collect_some found
  rw [found, List.inj_on_of_nodup_map distinct there member same]

theorem size_congr {m m' : HashMap K V} (same : ∀ k, m.lookup k = m'.lookup k) : size m = size m' := by
  have perm : m.entries.Perm m'.entries := List.lookup_ext m.nodupKeys m'.nodupKeys fun k v => by
    change v ∈ m.lookup k ↔ v ∈ m'.lookup k
    rw [same]
  exact perm.length_eq

theorem filter_flatMap_entries {α : Type} {key : α → K} {f : V → List α} {l : List ((_ : K) × V)} (distinct : l.NodupKeys)
    (own : ∀ entry ∈ l, ∀ a ∈ f entry.2, key a = entry.1) (k : K) :
    (l.flatMap fun entry => f entry.2).filter (fun a => decide (key a = k)) = ((l.dlookup k).map f).getD [] := by
  induction l with
  | nil => rfl
  | cons entry rest ih =>
      obtain ⟨absent, distinct⟩ := List.nodupKeys_cons.mp distinct
      have later := ih distinct fun other member => own other (List.mem_cons_of_mem _ member)
      have mine := own entry List.mem_cons_self
      obtain ⟨j, v⟩ := entry
      rw [List.flatMap_cons, List.filter_append, later]
      by_cases same : j = k
      · subst same
        rw [List.dlookup_eq_none.mpr absent, List.dlookup_cons_eq,
          List.filter_eq_self.mpr fun a member => decide_eq_true (mine a member)]
        exact List.append_nil _
      · rw [List.dlookup_cons_ne rest ⟨j, v⟩ (Ne.symm same), List.filter_eq_nil_iff.mpr, List.nil_append]
        intro a member
        rw [mine a member]
        simpa using same

/-- What comes from one entry comes out together, in whatever order the entries are visited. -/
theorem filter_flatMap_visit {α : Type} {key : α → K} {f : V → List α} {m : HashMap K V}
    (own : ∀ k v, m.lookup k = some v → ∀ a ∈ f v, key a = k) (ord : Order) (k : K) :
    ((ord.visit m.entries).flatMap fun entry => f entry.2).filter (fun a => decide (key a = k)) =
      ((m.lookup k).map f).getD [] := by
  have distinct : (ord.visit m.entries).NodupKeys := (List.perm_nodupKeys (ord.perm _)).mpr m.nodupKeys
  rw [filter_flatMap_entries distinct, List.perm_dlookup k distinct (ord.perm _)]
  · rfl
  · intro entry member a there
    exact own entry.1 entry.2 (mem_entries_iff.mp (ord.mem_visit.mp member)) a there

end HashMap

end HashTable

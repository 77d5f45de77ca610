import LiveWorld.Spec.Bookkeeping
import Mathlib.Tactic

namespace LiveWorld.Proof.Runtime
open HashTable Spec
variable {grid : SpatialGrid} {id other : ActorId} {cell there : GridCell}

def Occupied (grid : SpatialGrid) : Prop := ∀ cell set, grid.cells.lookup cell = some set → set ≠ ∅

def population (grid : SpatialGrid) : Nat := HashMap.total HashMap.size grid.cells

theorem totalActors_eq (grid : SpatialGrid) (ord : Order) : grid.totalActors ord = population grid :=
  HashMap.sum_values ord _ _

theorem isEmpty_iff {K V : Type} (m : HashMap K V) : m.entries.isEmpty = true ↔ m = ∅ := by
  rw [List.isEmpty_iff]
  constructor
  · intro none
    exact AList.ext (none.trans AList.empty_entries.symm)
  · intro equal
    subst equal
    rfl

theorem ne_empty_of_mem {K V : Type} {m : HashMap K V} {k : K} (member : k ∈ m) : m ≠ ∅ := by
  intro equal
  subst equal
  exact AList.notMem_empty k member

/-! ## Filing an id -/

theorem filed_file : Filed (grid.file id cell) there other ↔ (there = cell ∧ other = id) ∨ Filed grid there other := by
  simp only [Filed, SpatialGrid.file, HashMap.lookup_insert_eq]
  by_cases same : there = cell
  · subst same
    simp only [reduceIte, Option.some.injEq, exists_eq_left', AList.mem_insert, true_and]
    cases grid.cells.lookup there <;> simp
  · simp [same]

theorem occupied_file (occupied : Occupied grid) : Occupied (grid.file id cell) := by
  intro c set found
  simp only [SpatialGrid.file, HashMap.lookup_insert_eq] at found
  split_ifs at found with same
  · cases found
    exact ne_empty_of_mem (k := id) (by simp)
  · exact occupied c set found

theorem population_file (absent : ¬Filed grid cell id) :
    population (grid.file id cell) = population grid + 1 := by
  unfold population SpatialGrid.file
  cases found : grid.cells.lookup cell with
  | none =>
      simp only [Option.getD_none]
      rw [HashMap.total_insert_of_notMem _ (AList.lookup_eq_none.mp found),
        HashMap.size_insert_of_notMem (AList.notMem_empty id)]
      rfl
  | some set =>
      have outside : id ∉ set := fun member => absent ⟨set, found, member⟩
      have sum := HashMap.total_insert_of_lookup HashMap.size found (set.insert id ())
      rw [HashMap.size_insert_of_notMem outside] at sum
      simp only [Option.getD_some]
      omega

/-! ## Removing an id -/

theorem lookup_remove (grid : SpatialGrid) (id : ActorId) (cell c : GridCell) (set : HashSet ActorId) :
    (grid.remove id cell).2.cells.lookup c = some set ↔
      (c ≠ cell ∧ grid.cells.lookup c = some set) ∨
        (c = cell ∧ set ≠ ∅ ∧ ∃ old, grid.cells.lookup c = some old ∧ set = old.erase id) := by
  unfold SpatialGrid.remove
  cases found : grid.cells.lookup cell with
  | none =>
      by_cases same : c = cell
      · subst same
        simp [found]
      · simp [same]
  | some old =>
      simp only
      split_ifs with gone
      · rw [HashMap.lookup_erase_eq]
        by_cases same : c = cell
        · subst same
          simp only [ne_eq, not_true_eq_false, false_and, reduceIte, reduceCtorEq, false_or, true_and, found,
            Option.some.injEq, exists_eq_left', false_iff, not_and]
          intro nonempty equal
          subst equal
          exact nonempty ((isEmpty_iff _).mp gone)
        · simp [same]
      · rw [HashMap.lookup_insert_eq]
        by_cases same : c = cell
        · subst same
          simp only [ne_eq, not_true_eq_false, false_and, reduceIte, false_or, true_and, found, Option.some.injEq,
            exists_eq_left']
          constructor
          · intro equal
            subst equal
            exact ⟨fun empty => gone ((isEmpty_iff _).mpr empty), rfl⟩
          · rintro ⟨-, rfl⟩
            rfl
        · simp [same]

theorem filed_remove :
    Filed (grid.remove id cell).2 there other ↔ Filed grid there other ∧ ¬(there = cell ∧ other = id) := by
  simp only [Filed, lookup_remove]
  constructor
  · rintro ⟨set, ⟨away, found⟩ | ⟨rfl, -, old, found, rfl⟩, member⟩
    · exact ⟨⟨set, found, member⟩, fun both => away both.1⟩
    · rw [AList.mem_erase] at member
      exact ⟨⟨old, found, member.2⟩, fun both => member.1 both.2⟩
  · intro given
    obtain ⟨⟨set, found, member⟩, away⟩ := given
    by_cases same : there = cell
    · have kept : other ∈ set.erase id := AList.mem_erase.mpr ⟨fun equal => away ⟨same, equal⟩, member⟩
      exact ⟨_, .inr ⟨same, ne_empty_of_mem kept, set, found, rfl⟩, kept⟩
    · exact ⟨set, .inl ⟨same, found⟩, member⟩

theorem occupied_remove (occupied : Occupied grid) : Occupied (grid.remove id cell).2 := by
  intro c set found
  rcases (lookup_remove grid id cell c set).mp found with ⟨-, old⟩ | ⟨-, nonempty, -⟩
  · exact occupied c set old
  · exact nonempty

theorem population_remove (present : Filed grid cell id) :
    population (grid.remove id cell).2 + 1 = population grid := by
  obtain ⟨set, found, member⟩ := present
  have shrink := HashMap.size_erase_of_mem member
  unfold population SpatialGrid.remove
  simp only [found]
  split_ifs with gone
  · have erased := HashMap.total_erase HashMap.size found
    have none : HashMap.size (set.erase id) = 0 := List.length_eq_zero_iff.mpr (List.isEmpty_iff.mp gone)
    omega
  · have sum := HashMap.total_insert_of_lookup HashMap.size found (set.erase id)
    omega

theorem cellSize_remove : (grid.remove id cell).2.cellSize = grid.cellSize := by
  unfold SpatialGrid.remove
  cases grid.cells.lookup cell <;> rfl

/-! ## Moving an id -/

/-- `after` is `before` with `id` filed under `cell` and nowhere else. -/
structure Refiled (before after : SpatialGrid) (id : ActorId) (cell : GridCell) : Prop where
  filed : ∀ there other, Filed after there other ↔ if other = id then there = cell else Filed before there other
  occupied : Occupied before → Occupied after
  population : population after = population before
  cellSize : after.cellSize = before.cellSize

theorem refiled_refl (here : ∀ there, Filed grid there id ↔ there = cell) : Refiled grid grid id cell := by
  refine ⟨fun there other => ?_, fun occupied => occupied, rfl, rfl⟩
  split_ifs with same
  · rw [same, here]
  · rfl

theorem refiled_trans {second third : SpatialGrid} {next : GridCell} (first : Refiled grid second id cell)
    (rest : Refiled second third id next) : Refiled grid third id next := by
  refine ⟨fun there other => ?_, fun occupied => rest.occupied (first.occupied occupied),
    rest.population.trans first.population, rest.cellSize.trans first.cellSize⟩
  rw [rest.filed]
  split_ifs with same
  · rfl
  · rw [first.filed, if_neg same]

theorem refiled_moveActor (here : ∀ there, Filed grid there id ↔ there = cell) (pos : Position) :
    Refiled grid (grid.moveActor id cell pos).2 id (grid.moveActor id cell pos).1 := by
  unfold SpatialGrid.moveActor
  simp only
  split_ifs with same
  · exact refiled_refl (same ▸ here)
  · refine ⟨fun there other => ?_, fun occupied => occupied_file (occupied_remove occupied), ?_, cellSize_remove⟩
    · rw [filed_file, filed_remove]
      split_ifs with mine
      · subst mine
        rw [here]
        tauto
      · tauto
    · have left := population_remove ((here cell).mpr rfl)
      have absent : ¬Filed (grid.remove id cell).2 (grid.cellOf pos) id := by
        rw [filed_remove, here]
        exact fun both => both.2 ⟨both.1, rfl⟩
      rw [population_file absent]
      exact left

end LiveWorld.Proof.Runtime

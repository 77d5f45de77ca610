import Mathlib.Data.List.Dedup

/-!
# Least recently used

`order uses` are the keys that were used, the last used one first, and `use` is what a cache that forgets the least
recently used key does with the keys it holds.
-/

namespace Recency
variable {κ : Type*} [DecidableEq κ]

def order (uses : List κ) : List κ := uses.dedup.reverse

def use (capacity : Nat) (keys : List κ) (key : κ) : List κ := (key :: keys.erase key).take capacity

theorem nodup_order (uses : List κ) : (order uses).Nodup := List.nodup_reverse.mpr (List.nodup_dedup uses)

theorem dedup_concat (uses : List κ) (key : κ) : (uses ++ [key]).dedup = uses.dedup.erase key ++ [key] := by
  induction uses with
  | nil => rfl
  | cons first uses ih =>
      rw [List.cons_append]
      by_cases again : first ∈ uses
      · rw [List.dedup_cons_of_mem (List.mem_append_left _ again), List.dedup_cons_of_mem again, ih]
      · rw [List.dedup_cons_of_notMem again]
        by_cases same : first = key
        · subst same
          have absent : first ∉ uses.dedup := fun there => again (List.mem_dedup.mp there)
          rw [List.dedup_cons_of_mem (List.mem_append_right _ (List.mem_singleton_self first)), ih,
            List.erase_cons_head, List.erase_of_not_mem absent]
        · have absent : first ∉ uses ++ [key] := by simp [again, same]
          rw [List.dedup_cons_of_notMem absent, ih, List.erase_cons_tail (by simpa using same), List.cons_append]

theorem order_concat (uses : List κ) (key : κ) : order (uses ++ [key]) = key :: (order uses).erase key := by
  have distinct := List.nodup_dedup uses
  rw [order, order, dedup_concat, List.reverse_concat, distinct.erase_eq_filter,
    (List.nodup_reverse.mpr distinct).erase_eq_filter, List.filter_reverse]

-- what is beyond the capacity stays beyond it
theorem take_erase (n : Nat) (keys : List κ) (key : κ) :
    ((keys.take (n + 1)).erase key).take n = (keys.erase key).take n := by
  induction keys generalizing n with
  | nil => rfl
  | cons first keys ih =>
      rw [List.take_succ_cons]
      by_cases same : first = key
      · subst same
        rw [List.erase_cons_head, List.erase_cons_head, List.take_take, Nat.min_self]
      · rw [List.erase_cons_tail (by simpa using same), List.erase_cons_tail (by simpa using same)]
        cases n with
        | zero => rfl
        | succ n => rw [List.take_succ_cons, List.take_succ_cons, ih]

/-- A cache that holds the most recently used keys holds them after the next use. -/
theorem use_take_order (n : Nat) (uses : List κ) (key : κ) :
    use (n + 1) ((order uses).take (n + 1)) key = (order (uses ++ [key])).take (n + 1) := by
  rw [use, order_concat, List.take_succ_cons, List.take_succ_cons, take_erase]

theorem use_mem {capacity : Nat} {keys : List κ} {key : κ} (member : key ∈ keys) (bounded : keys.length ≤ capacity) :
    use capacity keys key = key :: keys.erase key := by
  have length := List.length_erase_of_mem member
  have positive := List.length_pos_of_mem member
  refine List.take_of_length_le ?_
  rw [List.length_cons]
  omega

theorem use_new {n : Nat} {keys : List κ} {key : κ} (absent : key ∉ keys) :
    use (n + 1) keys key = key :: keys.take n := by
  rw [use, List.erase_of_not_mem absent, List.take_succ_cons]

end Recency

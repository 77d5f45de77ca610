import Mathlib

/-!
# Zero-padded numbers and the end of a sorted list

Numbers written with leading zeros sort like the numbers. `notMem_take_iff` says which elements of a
sorted list survive when only the last `m` of them are kept.
-/

namespace Sorting

/-- The last `width` digits of `n` in decimal. -/
def zeroPadded : Nat → Nat → List Char
  | 0, _ => []
  | width + 1, n => Nat.digitChar (n / 10 ^ width % 10) :: zeroPadded width n

theorem digitChar_lt_iff {a b : Nat} (small : a < 10) (small' : b < 10) :
    Nat.digitChar a < Nat.digitChar b ↔ a < b := by
  interval_cases a <;> interval_cases b <;> decide

theorem digitChar_inj {a b : Nat} (small : a < 10) (small' : b < 10) :
    Nat.digitChar a = Nat.digitChar b ↔ a = b := by
  interval_cases a <;> interval_cases b <;> decide

theorem lt_iff_digits {x y p r s : Nat} (small : r < p) (small' : s < p) :
    x * p + r < y * p + s ↔ x < y ∨ x = y ∧ r < s := by
  have step : ∀ {u v : Nat}, u < v → u * p + p ≤ v * p := by
    intro u v less
    calc u * p + p = (u + 1) * p := (Nat.succ_mul u p).symm
      _ ≤ v * p := Nat.mul_le_mul_right p less
  rcases Nat.lt_trichotomy x y with lower | same | higher
  · have := step lower
    simp only [lower, true_or, iff_true]
    omega
  · subst same
    simp
  · have := step higher
    simp only [Nat.lt_asymm higher, Nat.ne_of_gt higher, false_and, or_false, iff_false]
    omega

-- the leading digits decide, and if they are equal the rest does
theorem zeroPadded_append_lt_iff (width a b : Nat) (ending : List Char) :
    zeroPadded width a ++ ending < zeroPadded width b ++ ending ↔ a % 10 ^ width < b % 10 ^ width := by
  induction width with
  | zero => simp [zeroPadded, Nat.mod_one]
  | succ width ih =>
      have digit : ∀ n : Nat, n / 10 ^ width % 10 < 10 := fun n => Nat.mod_lt _ (by norm_num)
      have rest : ∀ n : Nat, n % 10 ^ width < 10 ^ width := fun n => Nat.mod_lt _ (by positivity)
      have split : ∀ n : Nat, n % 10 ^ (width + 1) = n / 10 ^ width % 10 * 10 ^ width + n % 10 ^ width := by
        intro n
        rw [pow_succ, Nat.mod_mul, Nat.mul_comm, Nat.add_comm]
      rw [zeroPadded, zeroPadded, List.cons_append, List.cons_append, List.cons_lt_cons_iff, ih, split a, split b,
        digitChar_lt_iff (digit a) (digit b), digitChar_inj (digit a) (digit b), lt_iff_digits (rest a) (rest b)]

theorem append_lt_append_iff (front a b : List Char) : front ++ a < front ++ b ↔ a < b := by
  induction front with
  | nil => rfl
  | cons x rest ih =>
      rw [List.cons_append, List.cons_append, List.cons_lt_cons_iff, ih]
      simp

theorem notMem_take_iff {α : Type} {r : α → α → Prop} [DecidableRel r] (asymm : ∀ x y, r x y → ¬r y x) {l : List α}
    (sorted : l.Pairwise r) {x : α} (member : x ∈ l) (m : Nat) :
    x ∉ l.take (l.length - m) ↔ (l.filter fun y => r x y).length < m := by
  obtain ⟨before, after, rfl⟩ := List.append_of_mem member
  rw [List.pairwise_append, List.pairwise_cons] at sorted
  obtain ⟨-, ⟨higher, -⟩, across⟩ := sorted
  have lower : ∀ y ∈ before, r y x := fun y there => across y there x List.mem_cons_self
  have irrefl : ¬r x x := fun self => asymm x x self self
  have count : (before ++ x :: after).filter (fun y => r x y) = after := by
    rw [List.filter_append, List.filter_cons_of_neg (by simpa using irrefl),
      List.filter_eq_nil_iff.mpr fun y there => by simpa using asymm y x (lower y there),
      List.filter_eq_self.mpr fun y there => by simpa using higher y there, List.nil_append]
  have absent : x ∉ before.take ((before ++ x :: after).length - m) :=
    fun there => irrefl (lower x (List.mem_of_mem_take there))
  have excess : (before ++ x :: after).length - m - before.length = after.length + 1 - m := by
    rw [List.length_append, List.length_cons]
    omega
  rw [count, List.take_append, List.mem_append, not_or, excess]
  by_cases kept : after.length < m
  · rw [Nat.sub_eq_zero_of_le kept, List.take_zero]
    exact ⟨fun _ => kept, fun _ => ⟨absent, List.not_mem_nil⟩⟩
  · obtain ⟨k, positive⟩ : ∃ k, after.length + 1 - m = k + 1 := ⟨after.length - m, by omega⟩
    rw [positive, List.take_succ_cons]
    simp [kept]

end Sorting

import Mathlib.Data.Finset.Max

/-!
# The largest elements of a finite set

`largest rank m s` are the elements of `s` with fewer than `m` elements of `s` above them.
-/

namespace Largest
variable {α : Type*} {rank : α → Nat} {s : Finset α} {x y : α} {m : Nat}

def above (rank : α → Nat) (s : Finset α) (x : α) : Finset α := s.filter fun y => rank x < rank y

def largest (rank : α → Nat) (m : Nat) (s : Finset α) : Finset α := s.filter fun x => (above rank s x).card < m

theorem mem_above : y ∈ above rank s x ↔ y ∈ s ∧ rank x < rank y := Finset.mem_filter

theorem mem_largest : x ∈ largest rank m s ↔ x ∈ s ∧ (above rank s x).card < m := Finset.mem_filter

theorem above_anti (le : rank x ≤ rank y) : above rank s y ⊆ above rank s x := by
  intro z member
  rw [mem_above] at member ⊢
  exact ⟨member.1, le.trans_lt member.2⟩

theorem above_top (top : ∀ y ∈ s, rank y ≤ rank x) : above rank s x = ∅ :=
  Finset.filter_eq_empty_iff.mpr fun {y} member => Nat.not_lt.mpr (top y member)

theorem lt_of_mem_largest (kept : y ∈ largest rank m s) (member : x ∈ s) (dropped : x ∉ largest rank m s) :
    rank x < rank y := by
  by_contra le
  rw [mem_largest] at kept dropped
  have fewer := Finset.card_le_card (above_anti (s := s) (Nat.not_lt.mp le))
  exact dropped ⟨member, fewer.trans_lt kept.2⟩

variable [DecidableEq α]

theorem above_insert_of_lt (lower : rank x < rank y) : above rank (insert y s) x = insert y (above rank s x) :=
  (Finset.filter_insert _ _ _).trans (if_pos lower)

theorem above_insert_of_le (higher : rank y ≤ rank x) : above rank (insert y s) x = above rank s x :=
  (Finset.filter_insert _ _ _).trans (if_neg (Nat.not_lt.mpr higher))

theorem mem_largest_top (top : ∀ y ∈ s, rank y ≤ rank x) (positive : 1 ≤ m) : x ∈ largest rank m (insert x s) := by
  rw [mem_largest, above_insert_of_le le_rfl, above_top top]
  exact ⟨Finset.mem_insert_self x s, positive⟩

/-- A new top element pushes one of the others out. -/
theorem largest_insert (top : ∀ y ∈ s, rank y < rank x) :
    largest rank (m + 1) (insert x s) = insert x (largest rank m s) := by
  ext y
  rw [mem_largest, Finset.mem_insert, Finset.mem_insert, mem_largest]
  by_cases same : y = x
  · rw [same, above_insert_of_le le_rfl, above_top fun z member => (top z member).le]
    simp
  · simp only [same, false_or]
    refine and_congr_right fun member => ?_
    have absent : x ∉ above rank s y := fun there => lt_irrefl _ (top x (mem_above.mp there).1)
    rw [above_insert_of_lt (top y member), Finset.card_insert_of_notMem absent, Nat.add_lt_add_iff_right]

theorem card_largest (injective : Function.Injective rank) (m : Nat) (s : Finset α) :
    (largest rank m s).card = min s.card m := by
  induction s using Finset.induction_on_max_value rank generalizing m with
  | empty => simp [largest]
  | insert x s new top ih =>
      have below : ∀ y ∈ s, rank y < rank x := fun y member =>
        (top y member).lt_of_ne fun same => new (injective same ▸ member)
      rw [Finset.card_insert_of_notMem new]
      cases m with
      | zero => simp [largest]
      | succ m =>
          have absent : x ∉ largest rank m s := fun there => new (mem_largest.mp there).1
          rw [largest_insert below, Finset.card_insert_of_notMem absent, ih, Nat.succ_min_succ]

end Largest

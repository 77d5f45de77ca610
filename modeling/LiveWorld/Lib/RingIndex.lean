import Mathlib.Data.Nat.ModEq
import Mathlib.Tactic.NormNum

/-!
# Ring indices

Free-running counters that wrap at `2 ^ 64`, and the ring slots they select through a mask. Counters
are written `base + i` with an unbounded `i`, so that the arithmetic is about natural numbers and
wraps only here.
-/

namespace RingIndex

theorem eq_of_mod_eq {m b i j : Nat} (le : i ≤ j) (near : j < i + m)
    (same : (b + i) % m = (b + j) % m) : i = j := by
  have congruent : i ≡ j [MOD m] := Nat.ModEq.add_left_cancel' b same
  have divides : m ∣ j - i := (Nat.modEq_iff_dvd' le).mp congruent
  have : j - i = 0 := Nat.eq_zero_of_dvd_of_lt divides (by omega)
  omega

def counter (base : UInt64) (i : Nat) : UInt64 := base + UInt64.ofNat i

theorem counter_toNat (base : UInt64) (i : Nat) : (counter base i).toNat = (base.toNat + i) % 2 ^ 64 := by
  simp [counter, UInt64.toNat_add]

@[simp] theorem counter_zero (base : UInt64) : counter base 0 = base := by
  simp [counter]

theorem counter_succ (base : UInt64) (i : Nat) : counter base i + 1 = counter base (i + 1) := by
  apply UInt64.toNat_inj.mp
  simp [counter_toNat, UInt64.toNat_add, Nat.add_assoc]

theorem counter_eq_iff {base : UInt64} {i j : Nat} (le : i ≤ j) (near : j < i + 2 ^ 64) :
    counter base i = counter base j ↔ i = j := by
  constructor
  · intro same
    have := congrArg UInt64.toNat same
    rw [counter_toNat, counter_toNat] at this
    exact eq_of_mod_eq le near this
  · intro equal
    subst equal
    rfl

theorem counter_ne_base {base : UInt64} {i : Nat} (positive : 0 < i) (small : i < 2 ^ 64) : counter base i ≠ base := by
  intro same
  have zero := (counter_eq_iff (Nat.zero_le i) (by omega)).mp ((counter_zero base).trans same.symm)
  omega

theorem counter_next_base (base : UInt64) (i : Nat) : counter (base + 1) i = counter base (i + 1) := by
  apply UInt64.toNat_inj.mp
  simp [counter_toNat, UInt64.toNat_add, Nat.add_comm i, Nat.add_assoc]

theorem masked_toNat {k : Nat} (small : k ≤ 63) (x : UInt64) :
    (x &&& UInt64.ofNat (2 ^ k - 1)).toNat = x.toNat % 2 ^ k := by
  have lt : 2 ^ k - 1 < 2 ^ 64 := by
    have : 2 ^ k ≤ 2 ^ 63 := Nat.pow_le_pow_right (by norm_num) small
    omega
  rw [UInt64.toNat_and, UInt64.toNat_ofNat_of_lt' lt, Nat.and_two_pow_sub_one_eq_mod]

theorem masked_counter {k : Nat} (small : k ≤ 63) (base : UInt64) (i : Nat) :
    (counter base i &&& UInt64.ofNat (2 ^ k - 1)).toNat = (base.toNat + i) % 2 ^ k := by
  rw [masked_toNat small, counter_toNat, Nat.mod_mod_of_dvd _ (Nat.pow_dvd_pow 2 (by omega))]

theorem masked_eq_iff {k : Nat} (small : k ≤ 63) (base : UInt64) {i j : Nat} (le : i ≤ j)
    (near : j < i + 2 ^ k) :
    (counter base i &&& UInt64.ofNat (2 ^ k - 1)).toNat =
      (counter base j &&& UInt64.ofNat (2 ^ k - 1)).toNat ↔ i = j := by
  rw [masked_counter small, masked_counter small]
  constructor
  · exact eq_of_mod_eq le near
  · intro equal
    subst equal
    rfl

end RingIndex

import Mathlib.Data.Int.Init
import Mathlib.Tactic.Ring
import Mathlib.Tactic.NormNum

/-!
# Fixed-width arithmetic

The unsigned operations that stop at the ends of their type, and 32-bit signed arithmetic over the
integers: `saturateI32` is a float-to-integer cast, `wrapI32` an addition without overflow check.
-/

namespace Machine

def saturatingAdd8 (a b : UInt8) : UInt8 := if a.toNat + b.toNat < 256 then a + b else 255

def saturatingSub8 (a b : UInt8) : UInt8 := if b ≤ a then a - b else 0

def saturatingMul8 (a b : UInt8) : UInt8 := if a.toNat * b.toNat < 256 then a * b else 255

def saturatingAdd32 (a b : UInt32) : UInt32 :=
  if a.toNat + b.toNat < 4294967296 then a + b else 4294967295

def saturatingSub32 (a b : UInt32) : UInt32 := if b ≤ a then a - b else 0

theorem toNat_succ32 {n m : UInt32} (below : n.toNat < m.toNat) : (n + 1).toNat = n.toNat + 1 := by
  have bound := m.toNat_lt
  rw [UInt32.toNat_add, UInt32.toNat_one, Nat.mod_eq_of_lt (by omega)]

theorem ofNat_succ (n : Nat) : UInt64.ofNat (n + 1) = UInt64.ofNat n + 1 := UInt64.ofNat_add n 1

theorem saturatingSub8_toNat (a b : UInt8) : (saturatingSub8 a b).toNat = a.toNat - b.toNat := by
  unfold saturatingSub8
  split_ifs with fits
  · rw [UInt8.toNat_sub_of_le _ _ fits]
  · rw [UInt8.le_iff_toNat_le] at fits
    simp only [UInt8.toNat_zero]
    omega

theorem saturatingSub32_toNat (a b : UInt32) : (saturatingSub32 a b).toNat = a.toNat - b.toNat := by
  unfold saturatingSub32
  split_ifs with fits
  · rw [UInt32.toNat_sub_of_le _ _ fits]
  · rw [UInt32.le_iff_toNat_le] at fits
    simp only [UInt32.toNat_zero]
    omega

theorem saturatingAdd32_le (a b : UInt32) : a ≤ saturatingAdd32 a b := by
  unfold saturatingAdd32
  rw [UInt32.le_iff_toNat_le]
  split_ifs with small
  · rw [UInt32.toNat_add, Nat.mod_eq_of_lt small]
    exact Nat.le_add_right _ _
  · exact Nat.le_of_lt_succ a.toNat_lt

def minI32 : Int := -2147483648

def maxI32 : Int := 2147483647

def saturateI32 (z : Int) : Int := max minI32 (min maxI32 z)

def wrapI32 (z : Int) : Int := (z - minI32) % 4294967296 + minI32

theorem wrapI32_of_range {z : Int} (lower : minI32 ≤ z) (upper : z ≤ maxI32) : wrapI32 z = z := by
  unfold wrapI32 minI32 maxI32 at *
  omega

-- two summands in `0 .. maxI32` and `-maxI32 .. maxI32` can only overflow into the negative
theorem wrapI32_of_nonneg {a d : Int} (lower : 0 ≤ a) (upper : a ≤ maxI32) (least : -maxI32 ≤ d)
    (most : d ≤ maxI32) (nonneg : 0 ≤ wrapI32 (a + d)) : wrapI32 (a + d) = a + d := by
  unfold wrapI32 minI32 maxI32 at *
  omega

def rangeInclusive (lo hi : Int) : List Int :=
  (List.range (hi - lo + 1).toNat).map fun i : Nat => lo + i

theorem mem_rangeInclusive {lo hi z : Int} : z ∈ rangeInclusive lo hi ↔ lo ≤ z ∧ z ≤ hi := by
  simp only [rangeInclusive, List.mem_map, List.mem_range]
  constructor
  · rintro ⟨i, bound, rfl⟩
    omega
  · intro given
    obtain ⟨lower, upper⟩ := given
    exact ⟨(z - lo).toNat, by omega, by omega⟩

end Machine

import LiveWorld.Spec.Limiter
import Mathlib.Data.List.Perm.Basic

/-!
# Places and handlers

An entry is made when the first handler of an address starts, and deleted when the last one is done.
-/

namespace LiveWorld.Proof.Limiter
open HashTable Machine Spec Acceptor
variable {maxPerIp : UInt32} {s : Acceptor}

/-- The entry that stands for a number of handlers. -/
def entry (handlers : Nat) : Option UInt32 := if handlers = 0 then none else some (UInt32.ofNat handlers)

theorem getD_entry (handlers : Nat) : (entry handlers).getD 0 = UInt32.ofNat handlers := by
  unfold entry
  split_ifs with none
  · rw [none]
    rfl
  · rfl

theorem entry_succ (handlers : Nat) : entry (handlers + 1) = some (UInt32.ofNat handlers + 1) := by
  rw [entry, if_neg (Nat.succ_ne_zero _), UInt32.ofNat_add]
  rfl

structure Balanced (maxPerIp : UInt32) (s : Acceptor) : Prop where
  most : s.limiter.maxPerIp = maxPerIp
  counts : ∀ ip, s.limiter.counts.lookup ip = entry (s.running.count ip)
  bounded : ∀ ip, s.running.count ip ≤ maxPerIp.toNat

theorem Balanced.toNat_count (inv : Balanced maxPerIp s) (ip : IpAddr) :
    (UInt32.ofNat (s.running.count ip)).toNat = s.running.count ip :=
  UInt32.toNat_ofNat_of_lt' ((inv.bounded ip).trans_lt maxPerIp.toNat_lt)

theorem Balanced.full_iff (inv : Balanced maxPerIp s) (ip : IpAddr) :
    (s.limiter.counts.lookup ip).getD 0 ≥ s.limiter.maxPerIp ↔ s.running.count ip = maxPerIp.toNat := by
  have bound := inv.bounded ip
  rw [inv.counts, inv.most, getD_entry, ge_iff_le, UInt32.le_iff_toNat_le, inv.toNat_count]
  omega

/-! ## One step -/

theorem next_accept (s : Acceptor) (ip : IpAddr) :
    s.next (.accept ip) =
      let count := (s.limiter.counts.lookup ip).getD 0
      if count ≥ s.limiter.maxPerIp then ⟨{ s.limiter with counts := s.limiter.counts.insert ip count }, s.running⟩
      else ⟨{ s.limiter with counts := s.limiter.counts.insert ip (count + 1) }, s.running ++ [ip]⟩ := by
  by_cases full : (s.limiter.counts.lookup ip).getD 0 ≥ s.limiter.maxPerIp <;>
    simp [next, ConnectionLimiter.tryAcquire, full]

theorem count_one_more {running more : List IpAddr} {ip : IpAddr} (one : (ip :: running).Perm more) (other : IpAddr) :
    more.count other = if other = ip then running.count other + 1 else running.count other := by
  rw [← one.count_eq]
  by_cases same : other = ip
  · rw [same, List.count_cons_self, if_pos rfl]
  · rw [List.count_cons_of_ne (Ne.symm same), if_neg same]

theorem Balanced.accept (inv : Balanced maxPerIp s) (positive : 1 ≤ maxPerIp) (ip : IpAddr) :
    Balanced maxPerIp (s.next (.accept ip)) := by
  rw [next_accept]
  simp only
  split_ifs with full
  · -- a place is taken, so the entry that is written back was there before
    have taken : s.running.count ip ≠ 0 := by
      have places : 1 ≤ maxPerIp.toNat := UInt32.le_iff_toNat_le.mp positive
      rw [(inv.full_iff ip).mp full]
      omega
    refine ⟨inv.most, fun other => ?_, inv.bounded⟩
    simp only [HashMap.lookup_insert_eq]
    split_ifs with same
    · rw [same, inv.counts, getD_entry, entry, if_neg taken]
    · exact inv.counts other
  · have few := mt (inv.full_iff ip).mpr full
    have counts := count_one_more (List.perm_append_singleton ip s.running).symm
    refine ⟨inv.most, fun other => ?_, fun other => ?_⟩
    · simp only [HashMap.lookup_insert_eq, counts]
      split_ifs with same
      · rw [same, inv.counts, getD_entry, entry_succ]
      · exact inv.counts other
    · have bound := inv.bounded other
      simp only [counts]
      split_ifs with same
      · subst same
        omega
      · exact bound

theorem saturatingSub_succ (handlers : Nat) (small : handlers + 1 < 2 ^ 32) :
    saturatingSub32 (UInt32.ofNat handlers + 1) 1 = UInt32.ofNat handlers := by
  have next : (UInt32.ofNat handlers + 1).toNat = handlers + 1 := by
    rw [show UInt32.ofNat handlers + 1 = UInt32.ofNat (handlers + 1) from (UInt32.ofNat_add _ _).symm]
    exact UInt32.toNat_ofNat_of_lt' small
  rw [← UInt32.toNat_inj, saturatingSub32_toNat, next, UInt32.toNat_ofNat_of_lt' (Nat.lt_of_succ_lt small)]
  rfl

theorem Balanced.release {running : List IpAddr} {ip : IpAddr} (inv : Balanced maxPerIp s)
    (ended : (ip :: running).Perm s.running) : Balanced maxPerIp ⟨s.limiter.release ip, running⟩ := by
  have counts := count_one_more ended
  have small : running.count ip + 1 < 2 ^ 32 := by
    have bound := (inv.bounded ip).trans_lt maxPerIp.toNat_lt
    rwa [counts, if_pos rfl] at bound
  have found : s.limiter.counts.lookup ip = some (UInt32.ofNat (running.count ip) + 1) := by
    rw [inv.counts, counts, if_pos rfl, entry_succ]
  have others (other : IpAddr) (away : other ≠ ip) : s.limiter.counts.lookup other = entry (running.count other) := by
    rw [inv.counts, counts, if_neg away]
  have bounded (other : IpAddr) : running.count other ≤ maxPerIp.toNat := by
    have bound := inv.bounded other
    rw [counts] at bound
    split_ifs at bound <;> omega
  have zero : UInt32.ofNat (running.count ip) = 0 ↔ running.count ip = 0 := by
    rw [← UInt32.toNat_inj, UInt32.toNat_ofNat_of_lt' (Nat.lt_of_succ_lt small)]
    rfl
  simp only [ConnectionLimiter.release, found, saturatingSub_succ _ small, zero]
  split_ifs with last
  · refine ⟨inv.most, fun other => ?_, bounded⟩
    simp only [HashMap.lookup_erase_eq]
    split_ifs with same
    · rw [same, last]
      rfl
    · exact others other same
  · refine ⟨inv.most, fun other => ?_, bounded⟩
    simp only [HashMap.lookup_insert_eq]
    split_ifs with same
    · rw [same, entry, if_neg last]
    · exact others other same

theorem Balanced.finish (inv : Balanced maxPerIp s) (index : Nat) : Balanced maxPerIp (s.next (.finish index)) := by
  simp only [next]
  cases found : s.running[index]? with
  | none => exact inv
  | some ip =>
      obtain ⟨bound, rfl⟩ := List.getElem?_eq_some_iff.mp found
      exact inv.release (List.getElem_cons_eraseIdx_perm bound)

/-! ## Any sequence of steps -/

theorem balanced_start (maxPerIp : UInt32) : Balanced maxPerIp (start maxPerIp) :=
  ⟨rfl, fun _ => rfl, fun _ => Nat.zero_le _⟩

theorem Balanced.next (inv : Balanced maxPerIp s) (positive : 1 ≤ maxPerIp) (step : AcceptorStep) :
    Balanced maxPerIp (s.next step) := by
  cases step with
  | accept ip => exact inv.accept positive ip
  | finish index => exact inv.finish index

theorem Balanced.accounts (inv : Balanced maxPerIp s) : Accounts maxPerIp s := by
  constructor
  · intro ip
    rw [inv.counts, entry]
    by_cases idle : s.running.count ip = 0
    · rw [if_pos idle, if_neg (List.count_eq_zero.mp idle)]
      rfl
    · rw [if_neg idle, if_pos (List.count_pos_iff.mp (Nat.pos_of_ne_zero idle)), Option.map_some, inv.toNat_count]
  · exact inv.bounded
  · intro ip
    rw [← inv.full_iff ip, ConnectionLimiter.tryAcquire]
    split_ifs with full <;> simp [full]

theorem limiter_accounts (maxPerIp : UInt32) (positive : 1 ≤ maxPerIp) (steps : List AcceptorStep) :
    Accounts maxPerIp (steps.foldl Acceptor.next (start maxPerIp)) := by
  have inv : Balanced maxPerIp (steps.foldl Acceptor.next (start maxPerIp)) :=
    List.foldlRecOn steps Acceptor.next (balanced_start maxPerIp) fun s inv step _ => inv.next positive step
  exact inv.accounts

-- the third connection of an address is refused, and the place of the first is given away again
theorem two_places_accounted :
    Accounts 2 ([.accept (.V4 1), .accept (.V4 1), .accept (.V4 1), .accept (.V6 1), .finish 0, .accept (.V4 1)].foldl
      Acceptor.next (start 2)) :=
  limiter_accounts 2 (by decide) _

end LiveWorld.Proof.Limiter

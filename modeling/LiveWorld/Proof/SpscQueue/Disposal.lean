import LiveWorld.Actor
import LiveWorld.Proof.SpscQueue.Fifo
import LiveWorld.Proof.SpscQueue.Refinement
import LiveWorld.Spec.Disposal

/-!
# Nothing leaks and nothing is dropped twice

A quiet ring holds the items that were accepted and not popped, so the loop of `drop` is that of a list.
-/

namespace LiveWorld.Proof.SpscQueue
open Spec.Delivery RingSystem RingIndex
variable {T : Type} {k : Nat} {base : UInt64} {s : RingSystem T} {ring : SpscInner T} {messages : List T}

theorem counter_counter (base : UInt64) (i j : Nat) : counter (counter base i) j = counter base (i + j) := by
  induction j with
  | zero => rw [counter_zero, Nat.add_zero]
  | succ j ih => rw [← counter_succ, ih, counter_succ, Nat.add_assoc]

theorem Unbroken.represents (inv : Unbroken k base s) (quiet : Quiet s) :
    Represents k s.ring ((accepted s.log).drop (popped s.log).length) := by
  have fifo : Fifo k base s := by
    rcases inv.fifo with ⟨p, x, t, waiting, -⟩ | fifo
    · rw [quiet.1 p] at waiting
      cases waiting
    · exact fifo
  have le := inv.counters.le
  have cap := inv.counters.cap
  refine ⟨?_, ?_, fun i lt => ?_⟩
  · rw [inv.counters.tail, inv.counters.head, counter_counter, List.length_drop, Nat.add_sub_cancel' le]
  · rw [List.length_drop]
    omega
  · rw [List.length_drop] at lt
    rw [slotAt, inv.counters.head, counter_counter, List.getElem?_drop]
    exact fifo.slots _ (Nat.le_add_right _ _) (by omega)

theorem drop_represents (small : k ≤ 63) (inv : Represents k ring messages) (fuel : Nat)
    (enough : messages.length < fuel) :
    ∃ ring', ring.drop (2 ^ k) fuel = some (messages.map some, ring') ∧ Represents k ring' [] := by
  induction messages generalizing ring fuel with
  | nil =>
      obtain ⟨fuel, rfl⟩ := Nat.exists_eq_succ_of_ne_zero (Nat.ne_of_gt enough)
      refine ⟨ring, ?_, inv⟩
      rw [Nat.succ_eq_add_one, SpscInner.drop, pop_represents_nil inv]
      rfl
  | cons message rest ih =>
      obtain ⟨fuel, rfl⟩ := Nat.exists_eq_succ_of_ne_zero (Nat.ne_of_gt (Nat.zero_lt_of_lt enough))
      obtain ⟨later, popped, inv'⟩ := pop_represents_cons small inv
      obtain ⟨ring', dropped, empty⟩ := ih inv' fuel (Nat.lt_of_succ_lt_succ enough)
      refine ⟨ring', ?_, empty⟩
      rw [Nat.succ_eq_add_one, SpscInner.drop, popped]
      simp only [dropped, Option.map_some, List.map_cons]

theorem len_represents (small : k ≤ 63) (inv : Represents k ring messages) : ring.len.toNat = messages.length := by
  have bound := two_pow_lt small
  have room := inv.room
  have head := ring.head.toNat_lt
  rw [SpscInner.len, inv.tail, UInt64.toNat_sub, counter_toNat]
  omega

theorem drop_disposes (k : Nat) (small : k ≤ 63) (base : UInt64) (s : RingSystem T)
    (reachable : Reachable (2 ^ k) base Unraced s) (quiet : Quiet s) (fuel : Nat) (enough : 2 ^ k ≤ fuel) :
    ∃ dropped ring, s.ring.drop (2 ^ k) fuel = some (dropped, ring) ∧ Disposes s dropped ring := by
  have inv := unbroken_reachable small reachable
  have represents := inv.represents quiet
  have fifo : popped s.log = ((accepted s.log).take (popped s.log).length).map some := by
    rcases inv.fifo with ⟨p, x, t, waiting, -⟩ | fifo
    · rw [quiet.1 p] at waiting
      cases waiting
    · exact fifo.pops
  have room := represents.room
  obtain ⟨ring, dropped, empty⟩ := drop_represents small represents fuel (by omega)
  have all : popped s.log ++ ((accepted s.log).drop (popped s.log).length).map some = (accepted s.log).map some := by
    conv_lhs => enter [1]; rw [fifo]
    rw [← List.map_append, List.take_append_drop]
  refine ⟨_, ring, dropped, all, ?_, ?_, ?_⟩
  · rw [all]
    exact inv.items.acceptedOnce.map (Option.some_injective _)
  · rw [len_represents small represents, List.length_map]
  · have none := len_represents small empty
    rw [SpscInner.isEmpty, beq_iff_eq]
    exact UInt64.toNat_inj.mp none

-- two clones of a handle sent one message each, and only the first was read
theorem drop_of_unread_inbox :
    let actions : List (Action ActorMessage) :=
      [.send 0 (.GainXp 1), .advance 0, .advance 0, .advance 0, .send 1 .Shutdown, .advance 0, .advance 1, .pop, .consume,
        .advance 1, .advance 1, .consume, .advance 1, .consume, .consume]
    ∃ s dropped ring, Transition.run (RingSystem.step 4) (RingSystem.start 0) actions = some s ∧
      s.ring.drop 4 4 = some (dropped, ring) ∧ dropped.length = 1 ∧ Disposes s dropped ring := by
  intro actions
  have inTurn : Transition.Respects Unraced (RingSystem.step 4) (RingSystem.start 0) actions := by
    decide +kernel
  obtain ⟨s, ran, quiet, counts⟩ : ∃ s, Transition.run (RingSystem.step 4) (RingSystem.start 0) actions = some s ∧
      Quiet s ∧ s.ring.len = 1 := by
    refine ⟨_, rfl, ⟨?_, rfl⟩, rfl⟩
    intro p
    match p with
    | 0 => rfl
    | 1 => rfl
    | p + 2 => rfl
  obtain ⟨dropped, ring, drops, disposes⟩ :=
    drop_disposes 2 (by norm_num) 0 s (Transition.Reachable.run (.start rfl) inTurn ran) quiet 4 le_rfl
  refine ⟨s, dropped, ring, ran, drops, ?_, disposes⟩
  rw [← disposes.counted, counts]
  rfl

end LiveWorld.Proof.SpscQueue

import LiveWorld.Actor
import LiveWorld.Proof.SpscQueue.Delivery
import LiveWorld.Spec.Fifo

/-!
# The ring of one producer

A single producer is never raced, so the ring is a FIFO queue. What is left is that the producer refuses an item
only if the ring was full when it looked.
-/

namespace LiveWorld.Proof.SpscQueue
open Spec.Delivery Spec.Fifo RingSystem RingIndex
variable {T : Type} {k : Nat} {base : UInt64} {s s' : RingSystem T} {a : Action T} {o : Observed T}

def storing : PushState T → Nat
  | .storeTail _ _ => 1
  | _ => 0

/-- The other senders do nothing, nobody has stored `tail` since the producer loaded it, and every item it has
written is accepted or about to be. -/
structure Solo (s : RingSystem T) : Prop where
  others : ∀ p, p ≠ 0 → s.senders p = .idle
  current : tail? (s.senders 0) ≠ none → storesSince 0 s.log = 0
  writes : (written s.log).length = (accepted s.log).length + storing (s.senders 0)

theorem solo_start (base : UInt64) : Solo (start base : RingSystem T) :=
  ⟨fun _ _ => rfl, fun loaded => absurd rfl loaded, rfl⟩

theorem Solo.moveProducer {st : PushState (Sent T)} (inv : Solo s)
    (senders : ∀ q, s'.senders q = if q = 0 then st else s.senders q)
    (current : tail? st ≠ none → storesSince 0 s'.log = 0)
    (writes : (written s'.log).length = (accepted s'.log).length + storing st) : Solo s' := by
  refine ⟨fun p other => ?_, ?_, ?_⟩
  · rw [senders, if_neg other]
    exact inv.others p other
  · rw [senders, if_pos rfl]
    exact current
  · rw [senders, if_pos rfl]
    exact writes

theorem solo_step (inv : Solo s) (move : Moves (2 ^ k) s a s') (alone : OneProducer a) : Solo s' := by
  have writes := inv.writes
  cases move with
  | send here =>
      cases alone
      rw [here] at writes
      exact inv.moveProducer (fun q => senders_setSender s _ q _) (fun loaded => absurd rfl loaded) writes
  | loadTail here =>
      cases alone
      rw [here] at writes
      exact inv.moveProducer (fun q => senders_setSender s _ q _) (fun _ => if_pos rfl) writes
  | collide here _ | room here _ | overtaken here _ =>
      cases alone
      rw [here] at writes
      exact inv.moveProducer (fun q => senders_setSender s _ q _)
        (fun _ => inv.current (by rw [here]; exact Option.some_ne_none _)) writes
  | refuse here _ =>
      cases alone
      rw [here] at writes
      exact inv.moveProducer (fun q => senders_setSender s _ q _) (fun loaded => absurd rfl loaded) writes
  | write here =>
      cases alone
      rw [here] at writes
      refine inv.moveProducer (fun q => senders_setSender _ _ q _)
        (fun _ => inv.current (by rw [here]; exact Option.some_ne_none _)) ?_
      exact congrArg (· + 1) writes
  | store here =>
      cases alone
      rw [here] at writes
      refine inv.moveProducer (fun q => senders_setSender _ _ q _) (fun loaded => absurd rfl loaded) ?_
      simp only [record, log_setSender, written, accepted, List.length_append, List.length_singleton]
      exact writes
  | callPop _ | readHead _ | empty _ _ | ready _ _ | read _ => exact ⟨inv.others, inv.current, inv.writes⟩
  | release _ => exact ⟨inv.others, inv.current, inv.writes⟩

theorem Solo.unraced (inv : Solo s) (alone : OneProducer a) : Unraced s a := by
  cases a with
  | advance p =>
      cases alone
      intro item tail here
      exact inv.current (by rw [here]; exact Option.some_ne_none _)
  | send p body => trivial
  | pop => trivial
  | consume => trivial

theorem Solo.fifo (inv : Solo s) (unbroken : Unbroken k base s) : Fifo k base s := by
  rcases unbroken.fifo with ⟨p, x, t, storing, stale⟩ | fifo
  · by_cases mine : p = 0
    · subst mine
      exact absurd (inv.current (by rw [storing]; exact Option.some_ne_none _)) stale
    · rw [inv.others p mine] at storing
      cases storing
  · exact fifo

-- the masks of the two counters collide once every slot but one is taken
theorem full_of_collision (small : k ≤ 63) (counters : Counters k base s) (inv : Solo s) {item : Sent T} {t : UInt64}
    (here : s.senders 0 = .loadHead item t)
    (equal : t + 1 &&& SpscInner.mask (2 ^ k) = s.ring.head &&& SpscInner.mask (2 ^ k)) :
    waiting s = 2 ^ k - 1 := by
  have current := counters.current (t := t) (by rw [here]; rfl)
    (inv.current (by rw [here]; exact Option.some_ne_none _))
  have le := counters.le
  have cap := counters.cap
  rw [mask_pow, current, counter_succ, counters.head] at equal
  have full : (accepted s.log).length + 1 = (popped s.log).length + 2 ^ k := by
    by_contra free
    have same := (masked_eq_iff small base (i := (popped s.log).length) (by omega) (by omega)).mp
      (congrArg UInt64.toNat equal.symm)
    omega
  unfold waiting
  omega

structure Watched (k : Nat) (base : UInt64) (o : Observed T) : Prop where
  reachable : Reachable (2 ^ k) base Unraced o.system
  solo : Solo o.system
  seen : ∀ item tail, o.system.senders 0 = .reloadHead item tail → o.waitingAtLoad = 2 ^ k - 1

theorem watched_step (small : k ≤ 63) (inv : Watched k base o) (alone : OneProducer a) {after : Observed T}
    (moved : o.next (2 ^ k) a = some after) : Watched k base after := by
  obtain ⟨system, stepped, rfl⟩ := Option.map_eq_some_iff.mp moved
  have move := step_moves stepped
  refine ⟨inv.reachable.step (inv.solo.unraced alone) stepped, solo_step inv.solo move alone, ?_⟩
  have counters := (unbroken_reachable small inv.reachable).counters
  -- the producer gets to `reloadHead` by its first load of `head`, and stays there while the consumer moves
  cases move with
  | collide here equal =>
      cases alone
      intro item tail reached
      simp only [firstHeadLoad, here, if_true]
      exact full_of_collision small counters inv.solo here equal
  | send here | loadTail here | room here _ | refuse here _ | overtaken here _ | write here | store here =>
      cases alone
      intro item tail reached
      simp [record] at reached
  | callPop _ | readHead _ | empty _ _ | ready _ _ | read _ | release _ => exact inv.seen

theorem watched_reachable (small : k ≤ 63) (reachable : Observed.Reachable (2 ^ k) base o) : Watched k base o := by
  refine reachable.invariant ?_ ?_
  · intro o equal
    subst equal
    exact ⟨.start rfl, solo_start base, fun item tail reached => by cases reached⟩
  · intro o a after inv alone moved
    exact watched_step small inv alone moved

/-- A ring of `2 ^ k` slots between one producer and one consumer is a FIFO queue of at most `2 ^ k - 1` items. -/
theorem ring_is_bounded_fifo (k : Nat) (small : k ≤ 63) (base : UInt64) (o : Observed T)
    (reachable : Observed.Reachable (2 ^ k) base o) : BoundedFifo (2 ^ k) o := by
  have inv := watched_reachable small reachable
  have unbroken := unbroken_reachable small inv.reachable
  have counters := unbroken.counters
  have fifo := inv.solo.fifo unbroken
  have positive : 1 ≤ 2 ^ k := Nat.one_le_two_pow
  refine ⟨?_, ?_, ?_, ?_, ?_, ?_⟩
  · rw [fifo.pops]
    exact (List.take_prefix _ _).map some
  · intro head reading
    have first := counters.popHead head (by rw [reading]; rfl)
    obtain ⟨item, found, unreturned⟩ :=
      unbroken.contents.slots _ le_rfl (counters.nonempty (by rw [reading]; rfl))
    rw [slotAt, ← first] at found
    exact ⟨item, unbroken.items.stored _ item found, found, unreturned⟩
  · rw [inv.solo.writes]
    have cap := counters.cap
    cases producer : o.system.senders 0 with
    | storeTail item tail =>
        have room := counters.room 0 (by rw [producer]; rfl)
          (inv.solo.current (by rw [producer]; exact Option.some_ne_none _))
        simp only [storing]
        omega
    | idle | loadTail _ | loadHead _ _ | reloadHead _ _ | writeSlot _ _ =>
        simp only [storing]
        omega
  · rw [inv.solo.writes]
    exact Nat.le_add_right _ _
  · intro after item stepped logged
    cases step_moves stepped with
    | refuse here full => exact inv.seen _ _ here
    | loadTail here | write here | store here => cases logged
    | collide here _ | room here _ | overtaken here _ => exact absurd logged.symm (List.cons_ne_self _ _)
  · intro after stepped idle logged
    cases step_moves stepped with
    | @empty head here equal =>
        have le := counters.le
        have cap := counters.cap
        have bound := two_pow_lt small
        rw [counters.popHead head (by rw [here]; rfl), counters.tail, counter_eq_iff le (by omega)] at equal
        rw [fifo.pops, equal, List.take_length]
    | release here => exact absurd logged (List.cons_ne_self _ _)
    | readHead here | ready here _ | read here => cases idle

-- on two slots the second push is refused; the counters wrap on the way
theorem two_slots_are_a_bounded_fifo :
    let actions : List (Action ActorMessage) :=
      [.send 0 (.GainXp 1), .advance 0, .advance 0, .advance 0, .advance 0, .send 0 (.GainXp 2), .advance 0, .advance 0,
        .pop, .consume, .consume, .consume, .consume, .advance 0, .pop, .consume, .consume]
    ∃ o, Transition.run (Observed.next 2) (Observed.start (2 ^ 64 - 1)) actions = some o ∧ BoundedFifo 2 o := by
  intro actions
  have runs : (Transition.run (Observed.next 2) (Observed.start (2 ^ 64 - 1)) actions).isSome := by decide +kernel
  have alone : Transition.Respects (fun _ a => OneProducer a) (Observed.next 2) (Observed.start (2 ^ 64 - 1)) actions := by
    decide +kernel
  obtain ⟨o, ran⟩ := Option.isSome_iff_exists.mp runs
  have reachable : Observed.Reachable 2 (2 ^ 64 - 1) o := Transition.Reachable.run (.start rfl) alone ran
  exact ⟨o, ran, ring_is_bounded_fifo 1 (by norm_num) (2 ^ 64 - 1) o reachable⟩

end LiveWorld.Proof.SpscQueue

import LiveWorld.Actor
import LiveWorld.Proof.SpscQueue.Contents

/-!
# The ring as a list

A ring of `2 ^ k` slots that nobody else works on behaves as a list of at most `2 ^ k - 1` messages, and
an actor that empties its ring handles the messages of the list.
-/

namespace LiveWorld.Proof.SpscQueue
open RingIndex
variable {T : Type} {k : Nat} {ring : SpscInner T} {messages : List T}

structure Represents (k : Nat) (ring : SpscInner T) (messages : List T) : Prop where
  tail : ring.tail = counter ring.head messages.length
  room : messages.length + 1 ≤ 2 ^ k
  slots : ∀ i < messages.length, ring.buf (slotAt k ring.head i) = messages[i]?

theorem represents_new (k : Nat) : Represents k (SpscInner.new : SpscInner T) [] :=
  ⟨rfl, Nat.one_le_two_pow, fun i lt => absurd lt (Nat.not_lt_zero i)⟩

theorem full_iff (small : k ≤ 63) (inv : Represents k ring messages) :
    (ring.tail + 1 &&& SpscInner.mask (2 ^ k) = ring.head &&& SpscInner.mask (2 ^ k) ∧ ring.tail + 1 ≠ ring.head) ↔
      messages.length + 1 = 2 ^ k := by
  have bound := two_pow_lt small
  have room := inv.room
  have apart : counter ring.head (messages.length + 1) ≠ ring.head := counter_ne_base (by omega) (by omega)
  rw [inv.tail, counter_succ, and_iff_left apart, mask_pow, ← UInt64.toNat_inj, masked_counter small, masked_toNat small]
  constructor
  · intro same
    by_contra other
    have zero : 0 = messages.length + 1 :=
      eq_of_mod_eq (m := 2 ^ k) (b := ring.head.toNat) (Nat.zero_le _) (by omega) (by rw [Nat.add_zero, same])
    omega
  · intro same
    rw [same, Nat.add_mod_right]

theorem push_represents (small : k ≤ 63) (inv : Represents k ring messages) (item : T) :
    if messages.length < 2 ^ k - 1 then
      ∃ ring', ring.push (2 ^ k) item = (true, ring') ∧ Represents k ring' (messages ++ [item])
    else ring.push (2 ^ k) item = (false, ring) := by
  have room := inv.room
  split_ifs with free
  · have notFull := (full_iff small inv).not.mpr (by omega)
    refine ⟨_, by rw [SpscInner.push, if_neg notFull], ?_, ?_, ?_⟩
    · rw [List.length_append, List.length_singleton, ← counter_succ, ← inv.tail]
    · rw [List.length_append, List.length_singleton]
      omega
    · intro i lt
      rw [List.length_append, List.length_singleton] at lt
      change Function.update ring.buf (SpscInner.slot (2 ^ k) ring.tail) (some item) (slotAt k ring.head i) = _
      rw [inv.tail]
      by_cases last : i = messages.length
      · subst last
        rw [Function.update_self, List.getElem?_concat_length]
      · have before : i < messages.length := by omega
        rw [Function.update_of_ne (slotAt_ne small before (by omega)), List.getElem?_append_left before]
        exact inv.slots i before
  · rw [SpscInner.push, if_pos ((full_iff small inv).mpr (by omega))]

theorem pop_represents_nil (inv : Represents k ring []) : ring.pop (2 ^ k) = (none, ring) := by
  have empty : ring.head = ring.tail := by rw [inv.tail, List.length_nil, counter_zero]
  rw [SpscInner.pop, if_pos empty]

theorem pop_represents_cons {message : T} (small : k ≤ 63) (inv : Represents k ring (message :: messages)) :
    ∃ ring', ring.pop (2 ^ k) = (some (some message), ring') ∧ Represents k ring' messages := by
  have bound := two_pow_lt small
  have room := inv.room
  have tail := inv.tail
  rw [List.length_cons] at room tail
  have nonempty : ring.head ≠ ring.tail := by
    rw [tail]
    exact (counter_ne_base (by omega) (by omega)).symm
  have first : ring.buf (SpscInner.slot (2 ^ k) ring.head) = some message := by
    have slot := inv.slots 0 (Nat.zero_lt_succ _)
    rw [slotAt, counter_zero] at slot
    exact slot
  refine ⟨{ ring with head := ring.head + 1 }, by rw [SpscInner.pop, if_neg nonempty, first], ?_, ?_, ?_⟩
  · rw [tail, counter_next_base]
  · omega
  · intro i lt
    have slot := inv.slots (i + 1) (Nat.succ_lt_succ lt)
    rw [slotAt, ← counter_next_base, List.getElem?_cons_succ] at slot
    exact slot

/-! ## Inboxes -/

theorem queueSize_eq : queueSize = 2 ^ 10 := rfl

theorem send_refines {ring : SpscInner ActorMessage} {inboxes : Inboxes} (handle : ActorHandle)
    (inv : Represents 10 ring (inboxes.pending handle.sender)) (msg : ActorMessage) :
    ∃ ring', ring.push queueSize msg = ((handle.send inboxes msg).1, ring') ∧
      Represents 10 ring' ((handle.send inboxes msg).2.pending handle.sender) := by
  have pushed := push_represents (by norm_num) inv msg
  rw [ActorHandle.send, queueSize_eq]
  split_ifs at pushed ⊢ with free
  · obtain ⟨ring', done, inv'⟩ := pushed
    refine ⟨ring', done, ?_⟩
    change Represents 10 ring' (Function.update inboxes.pending handle.sender _ handle.sender)
    rw [Function.update_self]
    exact inv'
  · exact ⟨ring, pushed, inv⟩

/-- The loop of `drain_inbox` on the ring itself; `none` if the fuel runs out or a slot was never written. -/
def drainRing : Nat → Actor → SpscInner ActorMessage → Option (Actor × List ActorEffect × SpscInner ActorMessage)
  | 0, _, _ => none
  | fuel + 1, actor, ring =>
      match ring.pop queueSize with
      | (none, ring) => some (actor, [], ring)
      | (some none, _) => none
      | (some (some msg), ring) =>
          let (actor, effects) := actor.handleMessage msg
          if msg = .Shutdown then some (actor, effects, ring)
          else (drainRing fuel actor ring).map fun (actor, more, ring) => (actor, effects ++ more, ring)

theorem drainInbox_refines {ring : SpscInner ActorMessage} {messages : List ActorMessage}
    (inv : Represents 10 ring messages) (actor : Actor) {fuel : Nat} (enough : messages.length < fuel) :
    ∃ ring', drainRing fuel actor ring =
        some ((actor.drainInbox messages).1, (actor.drainInbox messages).2.1, ring') ∧
      Represents 10 ring' (actor.drainInbox messages).2.2 := by
  induction messages generalizing ring actor fuel with
  | nil =>
      obtain ⟨fuel, rfl⟩ := Nat.exists_eq_succ_of_ne_zero (Nat.ne_of_gt enough)
      refine ⟨ring, ?_, inv⟩
      rw [drainRing, queueSize_eq, pop_represents_nil inv]
      rfl
  | cons message rest ih =>
      obtain ⟨fuel, rfl⟩ := Nat.exists_eq_succ_of_ne_zero (Nat.ne_of_gt (Nat.zero_lt_of_lt enough))
      obtain ⟨ring', popped, inv'⟩ := pop_represents_cons (by norm_num) inv
      rw [Nat.succ_eq_add_one, drainRing, queueSize_eq, popped, Actor.drainInbox]
      dsimp only
      split_ifs
      · exact ⟨ring', rfl, inv'⟩
      · obtain ⟨left, drained, inv''⟩ := ih inv' (actor.handleMessage message).1 (Nat.lt_of_succ_lt_succ enough)
        exact ⟨left, by rw [drained]; rfl, inv''⟩

end LiveWorld.Proof.SpscQueue

import LiveWorld.Lib.RingIndex
import LiveWorld.Proof.SpscQueue.Items

/-!
# The counters of a run

As long as no store of `tail` is raced, `tail` counts the accepted items and `head` the popped ones,
and at most one slot less than the ring has is in use. A sender whose load of `tail` is out of date
knows by how many stores.
-/

namespace LiveWorld.Proof.SpscQueue
open Spec.Delivery RingSystem RingIndex
variable {T : Type} {k : Nat} {base : UInt64} {s s' : RingSystem T} {a : Action T}

def tail? : PushState T → Option UInt64
  | .idle | .loadTail _ => none
  | .loadHead _ t | .reloadHead _ t | .writeSlot _ t | .storeTail _ t => some t

def committed : PushState T → Bool
  | .writeSlot _ _ | .storeTail _ _ => true
  | _ => false

def head? : PopState T → Option UInt64
  | .idle | .loadHead => none
  | .loadTail h | .readSlot h | .storeHead h _ => some h

def reading : PopState T → Bool
  | .readSlot _ | .storeHead _ _ => true
  | _ => false

structure Counters (k : Nat) (base : UInt64) (s : RingSystem T) : Prop where
  tail : s.ring.tail = counter base (accepted s.log).length
  head : s.ring.head = counter base (popped s.log).length
  le : (popped s.log).length ≤ (accepted s.log).length
  cap : (accepted s.log).length + 1 ≤ (popped s.log).length + 2 ^ k
  loaded : ∀ p t, tail? (s.senders p) = some t →
    ∃ i, i + storesSince p s.log = (accepted s.log).length ∧ t = counter base i
  room : ∀ p, committed (s.senders p) = true → storesSince p s.log = 0 →
    (accepted s.log).length + 2 ≤ (popped s.log).length + 2 ^ k
  popHead : ∀ h, head? s.consumer = some h → h = counter base (popped s.log).length
  nonempty : reading s.consumer = true → (popped s.log).length < (accepted s.log).length

theorem counters_start (k : Nat) (base : UInt64) : Counters k base (start base : RingSystem T) := by
  constructor <;> simp [start, accepted, popped, tail?, committed, head?, reading, Nat.one_le_two_pow]

theorem Counters.current (inv : Counters k base s) {p : Nat} {t : UInt64} (loaded : tail? (s.senders p) = some t)
    (fresh : storesSince p s.log = 0) : t = counter base (accepted s.log).length := by
  obtain ⟨i, sum, same⟩ := inv.loaded p t loaded
  rw [fresh, Nat.add_zero] at sum
  rw [same, sum]

theorem Counters.moveSender (inv : Counters k base s) {p : Nat} {st : PushState (Sent T)}
    (senders : ∀ q, s'.senders q = if q = p then st else s.senders q)
    (tail : s'.ring.tail = s.ring.tail) (head : s'.ring.head = s.ring.head) (consumer : s'.consumer = s.consumer)
    (accepts : accepted s'.log = accepted s.log) (pops : popped s'.log = popped s.log)
    (since : ∀ q, q ≠ p → storesSince q s'.log = storesSince q s.log)
    (loaded : ∀ t, tail? st = some t →
      ∃ i, i + storesSince p s'.log = (accepted s.log).length ∧ t = counter base i)
    (room : committed st = true → storesSince p s'.log = 0 →
      (accepted s.log).length + 2 ≤ (popped s.log).length + 2 ^ k) : Counters k base s' := by
  constructor <;> simp only [senders, tail, head, consumer, accepts, pops]
  · exact inv.tail
  · exact inv.head
  · exact inv.le
  · exact inv.cap
  · intro q t h
    split_ifs at h with same
    · subst same
      exact loaded t h
    · rw [since q same]
      exact inv.loaded q t h
  · intro q h fresh
    split_ifs at h with same
    · subst same
      exact room h fresh
    · rw [since q same] at fresh
      exact inv.room q h fresh
  · exact inv.popHead
  · exact inv.nonempty

theorem Counters.moveConsumer (inv : Counters k base s) {c : PopState (Sent T)}
    (popHead : ∀ h, head? c = some h → h = counter base (popped s.log).length)
    (nonempty : reading c = true → (popped s.log).length < (accepted s.log).length) :
    Counters k base { s with consumer := c } :=
  ⟨inv.tail, inv.head, inv.le, inv.cap, inv.loaded, inv.room, popHead, nonempty⟩

theorem two_pow_lt (small : k ≤ 63) : 2 ^ k < 2 ^ 64 := Nat.pow_lt_pow_right (by norm_num) (by omega)

theorem mask_pow (k : Nat) : SpscInner.mask (2 ^ k) = UInt64.ofNat (2 ^ k - 1) := rfl

theorem counters_room (small : k ≤ 63) (inv : Counters k base s) {p : Nat} {item : Sent T} {t : UInt64}
    (here : s.senders p = .loadHead item t)
    (differ : t + 1 &&& SpscInner.mask (2 ^ k) ≠ s.ring.head &&& SpscInner.mask (2 ^ k))
    (fresh : storesSince p s.log = 0) : (accepted s.log).length + 2 ≤ (popped s.log).length + 2 ^ k := by
  have current := inv.current (t := t) (by rw [here]; rfl) fresh
  have cap := inv.cap
  by_contra full
  have last : (accepted s.log).length + 1 = (popped s.log).length + 2 ^ k := by omega
  -- the next tail would then fall on the slot of `head`
  apply differ
  rw [mask_pow, current, counter_succ, inv.head]
  apply UInt64.toNat_inj.mp
  rw [masked_counter small, masked_counter small, last, ← Nat.add_assoc, Nat.add_mod_right]

theorem not_overtaken (small : k ≤ 63) (inv : Counters k base s) {p : Nat} {item : Sent T} {t : UInt64}
    (here : s.senders p = .reloadHead item t) (empty : t + 1 = s.ring.head) : storesSince p s.log ≠ 0 := by
  intro fresh
  have current := inv.current (t := t) (by rw [here]; rfl) fresh
  have le := inv.le
  have cap := inv.cap
  have bound := two_pow_lt small
  rw [current, counter_succ, inv.head, eq_comm, counter_eq_iff (by omega) (by omega)] at empty
  omega

theorem counters_store (inv : Counters k base s) {p : Nat} {item : Sent T} {t : UInt64}
    (here : s.senders p = .storeTail item t) (fresh : storesSince p s.log = 0) :
    Counters k base
      (({ s with ring := { s.ring with tail := t + 1 } }.setSender p .idle).record (.stored p item)) := by
  have current := inv.current (t := t) (by rw [here]; rfl) fresh
  have room := inv.room p (by rw [here]; rfl) fresh
  have le := inv.le
  constructor <;> simp only [record, accepted, popped, storesSince, senders_setSender, ring_setSender,
    log_setSender, List.length_append, List.length_singleton]
  · rw [current, counter_succ]
  · exact inv.head
  · omega
  · omega
  · intro q u h
    split_ifs at h with same
    · cases h
    · obtain ⟨i, sum, rfl⟩ := inv.loaded q u h
      exact ⟨i, by omega, rfl⟩
  · exact fun q h stale => absurd stale (Nat.succ_ne_zero _)
  · exact inv.popHead
  · intro h
    have := inv.nonempty h
    omega

theorem counters_release (inv : Counters k base s) {h : UInt64} {item : Option (Sent T)}
    (here : s.consumer = .storeHead h item) :
    Counters k base
      ({ s with ring := { s.ring with head := h + 1 }, consumer := .idle }.record (.popped item)) := by
  have current : h = counter base (popped s.log).length := inv.popHead h (by rw [here]; rfl)
  have nonempty := inv.nonempty (by rw [here]; rfl)
  have cap := inv.cap
  constructor <;> simp only [record, accepted, popped, storesSince, List.length_append, List.length_singleton]
  · exact inv.tail
  · rw [current, counter_succ]
  · omega
  · omega
  · exact inv.loaded
  · intro p h fresh
    have := inv.room p h fresh
    omega
  · simp [head?]
  · simp [reading]

theorem counters_step (small : k ≤ 63) (inv : Counters k base s) (move : Moves (2 ^ k) s a s')
    (unraced : Unraced s a) : Counters k base s' := by
  have keep (p : Nat) {st : PushState (Sent T)} {t : UInt64} (here : tail? (s.senders p) = tail? st)
      (at' : tail? st = some t) :
      ∃ i, i + storesSince p s.log = (accepted s.log).length ∧ t = counter base i :=
    inv.loaded p t (here.trans at')
  cases move with
  | send _ =>
      exact inv.moveSender (fun q => senders_setSender s _ q _) rfl rfl rfl rfl rfl (fun _ _ => rfl)
        (by simp [tail?]) (by simp [committed])
  | @loadTail p _ _ =>
      refine inv.moveSender (fun q => senders_setSender s _ q _) rfl rfl rfl rfl rfl ?_ ?_ (by simp [committed])
      · intro q other
        simp [record, setSender, storesSince, other.symm]
      · intro t h
        refine ⟨(accepted s.log).length, by simp [record, setSender, storesSince], ?_⟩
        rw [← Option.some.inj h, inv.tail]
  | collide here _ =>
      exact inv.moveSender (fun q => senders_setSender s _ q _) rfl rfl rfl rfl rfl (fun _ _ => rfl)
        (fun t h => keep _ (by rw [here]; rfl) h) (by simp [committed])
  | room here differ =>
      exact inv.moveSender (fun q => senders_setSender s _ q _) rfl rfl rfl rfl rfl (fun _ _ => rfl)
        (fun t h => keep _ (by rw [here]; rfl) h) (fun _ fresh => counters_room small inv here differ fresh)
  | refuse _ _ =>
      exact inv.moveSender (fun q => senders_setSender s _ q _) rfl rfl rfl rfl rfl (fun _ _ => rfl)
        (by simp [tail?]) (by simp [committed])
  | overtaken here empty =>
      exact inv.moveSender (fun q => senders_setSender s _ q _) rfl rfl rfl rfl rfl (fun _ _ => rfl)
        (fun t h => keep _ (by rw [here]; rfl) h)
        (fun _ fresh => absurd fresh (not_overtaken small inv here empty))
  | @write p item t here =>
      exact inv.moveSender (fun q => senders_setSender _ _ q _) rfl rfl rfl rfl rfl (fun _ _ => rfl)
        (fun t h => keep _ (by rw [here]; rfl) h) (fun _ fresh => inv.room p (by rw [here]; rfl) fresh)
  | store here => exact counters_store inv here (unraced _ _ here)
  | callPop _ => exact inv.moveConsumer (by simp [head?]) (by simp [reading])
  | readHead _ => exact inv.moveConsumer (fun h same => Option.some.inj same ▸ inv.head) (by simp [reading])
  | empty _ _ => exact inv.moveConsumer (by simp [head?]) (by simp [reading])
  | ready here differ =>
      have current := inv.popHead _ (by rw [here]; rfl)
      refine inv.moveConsumer (fun h same => Option.some.inj same ▸ current) fun _ => ?_
      refine lt_of_le_of_ne inv.le fun same => differ ?_
      rw [current, inv.tail, same]
  | read here =>
      exact inv.moveConsumer (fun h same => inv.popHead h (by rw [here]; exact same))
        (fun _ => inv.nonempty (by rw [here]; rfl))
  | release here => exact counters_release inv here

end LiveWorld.Proof.SpscQueue

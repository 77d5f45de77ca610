import LiveWorld.Proof.SpscQueue.Counters

/-!
# The contents of the ring

Under unraced stores every slot between `head` and `tail` holds an item that no pop has returned,
whichever sender put it there; so does the slot after `tail` once an up-to-date sender has written
it.
-/

namespace LiveWorld.Proof.SpscQueue
open Spec.Delivery RingSystem RingIndex
variable {T : Type} {k : Nat} {base : UInt64} {s s' : RingSystem T} {a : Action T}

abbrev slotAt (k : Nat) (base : UInt64) (i : Nat) : Nat := SpscInner.slot (2 ^ k) (counter base i)

theorem slotAt_ne (small : k ≤ 63) {i j : Nat} (lt : i < j) (near : j < i + 2 ^ k) :
    slotAt k base i ≠ slotAt k base j := by
  intro same
  have := (masked_eq_iff small base lt.le near).mp same
  omega

structure Contents (k : Nat) (base : UInt64) (s : RingSystem T) : Prop where
  slots : ∀ i, (popped s.log).length ≤ i → i < (accepted s.log).length →
    ∃ x, s.ring.buf (slotAt k base i) = some x ∧ some x ∉ popped s.log
  landed : ∀ p x t, s.senders p = .storeTail x t → storesSince p s.log = 0 →
    ∃ y, s.ring.buf (slotAt k base (accepted s.log).length) = some y ∧ some y ∉ popped s.log
  taken : ∀ h it, s.consumer = .storeHead h it →
    ∃ x ∈ written s.log, it = some x ∧ some x ∉ popped s.log ∧
      ∀ j, j ≠ slotAt k base (popped s.log).length → s.ring.buf j ≠ some x
  genuine : ∀ y ∈ popped s.log, ∃ x ∈ written s.log, y = some x
  once : (popped s.log).Nodup

theorem contents_start (k : Nat) (base : UInt64) : Contents k base (start base : RingSystem T) := by
  constructor <;> simp [start, accepted, popped]

theorem Contents.moveSender (inv : Contents k base s) {p : Nat} {st : PushState (Sent T)}
    (senders : ∀ q, s'.senders q = if q = p then st else s.senders q)
    (ring : s'.ring.buf = s.ring.buf) (consumer : s'.consumer = s.consumer)
    (accepts : accepted s'.log = accepted s.log) (pops : popped s'.log = popped s.log)
    (writes : written s'.log = written s.log)
    (since : ∀ q, q ≠ p → storesSince q s'.log = storesSince q s.log)
    (moving : ∀ x tail, st ≠ .storeTail x tail) : Contents k base s' := by
  constructor <;> simp only [senders, ring, consumer, accepts, pops, writes]
  · exact inv.slots
  · intro q x t h fresh
    split_ifs at h with same
    · exact absurd h (moving x t)
    · exact inv.landed q x t h (since q same ▸ fresh)
  · exact inv.taken
  · exact inv.genuine
  · exact inv.once

theorem Contents.moveConsumer (inv : Contents k base s) {c : PopState (Sent T)}
    (taken : ∀ h it, c = .storeHead h it →
      ∃ x ∈ written s.log, it = some x ∧ some x ∉ popped s.log ∧
        ∀ j, j ≠ slotAt k base (popped s.log).length → s.ring.buf j ≠ some x) :
    Contents k base { s with consumer := c } :=
  ⟨inv.slots, inv.landed, taken, inv.genuine, inv.once⟩

theorem contents_write (items : Items s) (counters : Counters k base s) (inv : Contents k base s) {p : Nat}
    {item : Sent T} {t : UInt64} (here : s.senders p = .writeSlot item t) :
    Contents k base (({ s with ring := { s.ring with
        buf := Function.update s.ring.buf (SpscInner.slot (2 ^ k) t) (some item) } }.setSender p
      (.storeTail item t)).record (.wrote p item)) := by
  have fresh : item ∉ written s.log := items.unwritten p item (by rw [here]; rfl)
  have unpopped : some item ∉ popped s.log := by
    intro member
    obtain ⟨x, known, same⟩ := inv.genuine _ member
    exact fresh (Option.some.inj same ▸ known)
  -- wherever the item lands, the slot still holds something that was never popped
  have kept (j : Nat) (h : ∃ x, s.ring.buf j = some x ∧ some x ∉ popped s.log) :
      ∃ x, Function.update s.ring.buf (SpscInner.slot (2 ^ k) t) (some item) j = some x ∧
        some x ∉ popped s.log := by
    rw [Function.update_apply]
    split_ifs
    · exact ⟨item, rfl, unpopped⟩
    · exact h
  constructor <;> simp only [record, accepted, popped, written, storesSince, senders_setSender,
    ring_setSender, log_setSender]
  · exact fun i lower upper => kept _ (inv.slots i lower upper)
  · intro q x u h upToDate
    split_ifs at h with same
    · subst same
      have current := counters.current (t := t) (by rw [here]; rfl) upToDate
      refine ⟨item, ?_, unpopped⟩
      rw [slotAt, ← current, Function.update_self]
    · exact kept _ (inv.landed q x u h upToDate)
  · intro h it busy
    obtain ⟨x, known, same, unreturned, elsewhere⟩ := inv.taken h it busy
    refine ⟨x, List.mem_cons_of_mem _ known, same, unreturned, fun j away => ?_⟩
    rw [Function.update_apply]
    split_ifs
    · exact fun equal => fresh (Option.some.inj equal ▸ known)
    · exact elsewhere j away
  · intro y member
    obtain ⟨x, known, same⟩ := inv.genuine y member
    exact ⟨x, List.mem_cons_of_mem _ known, same⟩
  · exact inv.once

theorem contents_store (inv : Contents k base s) {p : Nat} {item : Sent T} {t : UInt64}
    (here : s.senders p = .storeTail item t) (fresh : storesSince p s.log = 0) :
    Contents k base
      (({ s with ring := { s.ring with tail := t + 1 } }.setSender p .idle).record (.stored p item)) := by
  constructor <;> simp only [record, accepted, popped, written, storesSince, ring_setSender,
    log_setSender, List.length_append, List.length_singleton]
  · intro i lower upper
    rcases Nat.lt_succ_iff_lt_or_eq.mp upper with old | rfl
    · exact inv.slots i lower old
    · exact inv.landed p item t here fresh
  · exact fun q x u _ stale => absurd stale (Nat.succ_ne_zero _)
  · exact inv.taken
  · exact inv.genuine
  · exact inv.once

theorem contents_read (items : Items s) (counters : Counters k base s) (inv : Contents k base s) {h : UInt64}
    (here : s.consumer = .readSlot h) :
    Contents k base { s with consumer := .storeHead h (s.ring.buf (SpscInner.slot (2 ^ k) h)) } := by
  refine inv.moveConsumer fun h' it same => ?_
  cases same
  rw [counters.popHead h (by rw [here]; rfl)]
  obtain ⟨x, found, unreturned⟩ := inv.slots _ le_rfl (counters.nonempty (by rw [here]; rfl))
  exact ⟨x, items.stored _ x found, found, unreturned,
    fun j away equal => away (items.oneSlot _ _ x equal found)⟩

theorem contents_release (small : k ≤ 63) (counters : Counters k base s) (inv : Contents k base s) {h : UInt64}
    {item : Option (Sent T)} (here : s.consumer = .storeHead h item) :
    Contents k base
      ({ s with ring := { s.ring with head := h + 1 }, consumer := .idle }.record (.popped item)) := by
  obtain ⟨x, known, rfl, unreturned, elsewhere⟩ := inv.taken h item here
  have nonempty := counters.nonempty (by rw [here]; rfl)
  have cap := counters.cap
  -- the slots further on hold other items than the one returned now
  have kept (i : Nat) (lower : (popped s.log).length < i) (upper : i ≤ (accepted s.log).length)
      (old : ∃ y, s.ring.buf (slotAt k base i) = some y ∧ some y ∉ popped s.log) :
      ∃ y, s.ring.buf (slotAt k base i) = some y ∧ some y ∉ popped s.log ++ [some x] := by
    obtain ⟨y, found, unpopped⟩ := old
    have differ := elsewhere _ (slotAt_ne small lower (by omega)).symm
    refine ⟨y, found, ?_⟩
    rw [List.mem_append, List.mem_singleton, not_or]
    exact ⟨unpopped, fun same => differ (found.trans same)⟩
  constructor <;> simp only [record, accepted, popped, written, storesSince, List.length_append,
    List.length_singleton]
  · exact fun i lower upper => kept i lower upper.le (inv.slots i (by omega) upper)
  · exact fun p y u at' fresh => kept _ nonempty le_rfl (inv.landed p y u at' fresh)
  · intro h it same
    cases same
  · intro y member
    rcases List.mem_append.mp member with old | new
    · exact inv.genuine y old
    · exact ⟨x, known, List.mem_singleton.mp new⟩
  · rw [List.nodup_append]
    refine ⟨inv.once, List.nodup_singleton _, ?_⟩
    intro y member z single equal
    subst equal
    rw [List.mem_singleton] at single
    exact unreturned (single ▸ member)

theorem contents_step (small : k ≤ 63) (items : Items s) (counters : Counters k base s) (inv : Contents k base s)
    (move : Moves (2 ^ k) s a s') (unraced : Unraced s a) : Contents k base s' := by
  cases move with
  | send _ | collide _ _ | room _ _ | refuse _ _ | overtaken _ _ =>
      exact inv.moveSender (fun q => senders_setSender s _ q _) rfl rfl rfl rfl rfl (fun _ _ => rfl) (by simp)
  | @loadTail p _ _ =>
      refine inv.moveSender (fun q => senders_setSender s _ q _) rfl rfl rfl rfl rfl (fun q other => ?_) (by simp)
      simp [record, setSender, storesSince, other.symm]
  | write here => exact contents_write items counters inv here
  | store here => exact contents_store inv here (unraced _ _ here)
  | callPop _ | readHead _ | empty _ _ | ready _ _ => exact inv.moveConsumer (by simp)
  | read here => exact contents_read items counters inv here
  | release here => exact contents_release small counters inv here

end LiveWorld.Proof.SpscQueue

import LiveWorld.Proof.SpscQueue.Contents

/-!
# Delivery

A run of unraced stores is in one of two situations. Either some sender has written its slot and can
no longer store `tail`, because another send stored it in between (`Overtaken`); that sender never
returns. Or the ring is a FIFO queue of the accepted items (`Fifo`), and then a drained queue has
delivered each of them once.
-/

namespace LiveWorld.Proof.SpscQueue
open Spec.Delivery RingSystem RingIndex
variable {T : Type} {k : Nat} {base : UInt64} {s s' : RingSystem T} {a : Action T}

def Overtaken (s : RingSystem T) : Prop :=
  ∃ p x t, s.senders p = .storeTail x t ∧ storesSince p s.log ≠ 0

structure Fifo (k : Nat) (base : UInt64) (s : RingSystem T) : Prop where
  pops : popped s.log = ((accepted s.log).take (popped s.log).length).map some
  slots : ∀ i, (popped s.log).length ≤ i → i < (accepted s.log).length →
    s.ring.buf (slotAt k base i) = (accepted s.log)[i]?
  taken : ∀ h it, s.consumer = .storeHead h it → it = (accepted s.log)[(popped s.log).length]?
  landed : ∀ p x t, s.senders p = .storeTail x t → storesSince p s.log = 0 →
    s.ring.buf (slotAt k base (accepted s.log).length) = some x ∨
      ∃ q y u, q ≠ p ∧ s.senders q = .storeTail y u

theorem fifo_start (k : Nat) (base : UInt64) : Fifo k base (start base : RingSystem T) := by
  constructor <;> simp [start, accepted, popped]

theorem overtaken_step (N : Nat) (raced : Overtaken s) (move : Moves N s a s') (unraced : Unraced s a) :
    Overtaken s' := by
  obtain ⟨p, x, t, waiting, stale⟩ := raced
  -- the overtaken sender has only its store left, which is not allowed any more
  have stays (q : Nat) (other : s.senders q ≠ .storeTail x t) : p ≠ q := by
    intro equal
    subst equal
    exact other waiting
  refine ⟨p, x, t, ?_⟩
  cases move with
  | @send q _ here | @loadTail q _ here | @collide q _ _ here _ | @room q _ _ here _
  | @refuse q _ _ here _ | @overtaken q _ _ here _ | @write q _ _ here =>
      have other := stays q (by simp [here])
      simp_all [record, storesSince, Ne.symm other]
  | @store q y u here =>
      have other : p ≠ q := by
        intro equal
        subst equal
        exact stale (unraced y u here)
      simp_all [record, storesSince]
  | callPop _ | readHead _ | empty _ _ | ready _ _ | read _ => exact ⟨waiting, stale⟩
  | release _ => exact ⟨waiting, stale⟩

theorem Fifo.moveSender (inv : Fifo k base s) {p : Nat} {st : PushState (Sent T)}
    (senders : ∀ q, s'.senders q = if q = p then st else s.senders q)
    (ring : s'.ring.buf = s.ring.buf) (consumer : s'.consumer = s.consumer)
    (accepts : accepted s'.log = accepted s.log) (pops : popped s'.log = popped s.log)
    (since : ∀ q, q ≠ p → storesSince q s'.log = storesSince q s.log)
    (before : ∀ x tail, s.senders p ≠ .storeTail x tail) (after : ∀ x tail, st ≠ .storeTail x tail) :
    Fifo k base s' := by
  constructor <;> simp only [senders, ring, consumer, accepts, pops]
  · exact inv.pops
  · exact inv.slots
  · exact inv.taken
  · intro q x t h fresh
    split_ifs at h with same
    · exact absurd h (after x t)
    · rcases inv.landed q x t h (since q same ▸ fresh) with own | ⟨r, y, u, other, waiting⟩
      · exact .inl own
      · have away : r ≠ p := by
          intro equal
          subst equal
          exact before y u waiting
        exact .inr ⟨r, y, u, other, by rw [if_neg away, waiting]⟩

theorem Fifo.moveConsumer (inv : Fifo k base s) {c : PopState (Sent T)}
    (taken : ∀ h it, c = .storeHead h it → it = (accepted s.log)[(popped s.log).length]?) :
    Fifo k base { s with consumer := c } :=
  ⟨inv.pops, inv.slots, taken, inv.landed⟩

theorem fifo_write (small : k ≤ 63) (counters : Counters k base s) (inv : Fifo k base s) {p : Nat} {item : Sent T}
    {t : UInt64} (here : s.senders p = .writeSlot item t) (fresh : storesSince p s.log = 0) :
    Fifo k base (({ s with ring := { s.ring with
        buf := Function.update s.ring.buf (SpscInner.slot (2 ^ k) t) (some item) } }.setSender p
      (.storeTail item t)).record (.wrote p item)) := by
  have current : t = counter base (accepted s.log).length :=
    counters.current (by rw [here]; rfl) fresh
  have cap := counters.cap
  subst current
  constructor <;> simp only [record, accepted, popped, storesSince, senders_setSender, ring_setSender,
    log_setSender]
  · exact inv.pops
  · intro i lower upper
    rw [Function.update_of_ne (slotAt_ne small upper (by omega))]
    exact inv.slots i lower upper
  · exact inv.taken
  · intro q x u h _
    split_ifs at h with same
    · cases h
      left
      rw [Function.update_self]
    · exact .inr ⟨p, item, _, Ne.symm same, by rw [if_pos rfl]⟩

theorem fifo_store (counters : Counters k base s) (inv : Fifo k base s) {p : Nat} {item : Sent T}
    {t : UInt64} (here : s.senders p = .storeTail item t) (fresh : storesSince p s.log = 0)
    (alone : ∀ q y u, q ≠ p → s.senders q ≠ .storeTail y u) :
    Fifo k base
      (({ s with ring := { s.ring with tail := t + 1 } }.setSender p .idle).record (.stored p item)) := by
  have own : s.ring.buf (slotAt k base (accepted s.log).length) = some item := by
    rcases inv.landed p item t here fresh with own | ⟨q, y, u, other, waiting⟩
    · exact own
    · exact absurd waiting (alone q y u other)
  constructor <;> simp only [record, accepted, popped, storesSince, ring_setSender, log_setSender,
    List.length_append, List.length_singleton]
  · rw [List.take_append_of_le_length counters.le]
    exact inv.pops
  · intro i lower upper
    rcases Nat.lt_succ_iff_lt_or_eq.mp upper with old | rfl
    · rw [List.getElem?_append_left old]
      exact inv.slots i lower old
    · rw [List.getElem?_concat_length]
      exact own
  · intro h it busy
    have nonempty := counters.nonempty (by rw [show s.consumer = _ from busy]; rfl)
    rw [List.getElem?_append_left nonempty]
    exact inv.taken h it busy
  · exact fun q x u _ stale => absurd stale (Nat.succ_ne_zero _)

theorem fifo_release (counters : Counters k base s) (inv : Fifo k base s) {h : UInt64}
    {item : Option (Sent T)} (here : s.consumer = .storeHead h item) :
    Fifo k base
      ({ s with ring := { s.ring with head := h + 1 }, consumer := .idle }.record (.popped item)) := by
  have nonempty := counters.nonempty (by rw [here]; rfl)
  have returned := inv.taken h item here
  constructor <;> simp only [record, accepted, popped, storesSince, List.length_append, List.length_singleton]
  · rw [List.take_add_one, List.map_append, ← inv.pops, returned, List.getElem?_eq_getElem nonempty]
    rfl
  · exact fun i lower upper => inv.slots i (by omega) upper
  · intro h it same
    cases same
  · exact inv.landed

theorem fifo_step (small : k ≤ 63) (counters : Counters k base s) (inv : Fifo k base s)
    (move : Moves (2 ^ k) s a s') (unraced : Unraced s a) : Overtaken s' ∨ Fifo k base s' := by
  cases move with
  | send here | collide here _ | room here _ | refuse here _ | overtaken here _ =>
      exact .inr (inv.moveSender (fun q => senders_setSender s _ q _) rfl rfl rfl rfl (fun _ _ => rfl)
        (by simp [here]) (by simp))
  | @loadTail p _ here =>
      refine .inr (inv.moveSender (fun q => senders_setSender s _ q _) rfl rfl rfl rfl (fun q other => ?_)
        (by simp [here]) (by simp))
      simp [record, setSender, storesSince, other.symm]
  | @write p item t here =>
      by_cases fresh : storesSince p s.log = 0
      · exact .inr (fifo_write small counters inv here fresh)
      · exact .inl ⟨p, item, t, by simp [record, senders_setSender], fresh⟩
  | @store p item t here =>
      by_cases alone : ∀ q y u, q ≠ p → s.senders q ≠ .storeTail y u
      · exact .inr (fifo_store counters inv here (unraced item t here) alone)
      · push Not at alone
        obtain ⟨q, y, u, other, waiting⟩ := alone
        refine .inl ⟨q, y, u, ?_, Nat.succ_ne_zero _⟩
        simp [record, other, waiting]
  | callPop _ | readHead _ | empty _ _ | ready _ _ => exact .inr (inv.moveConsumer (by simp))
  | @read h here =>
      refine .inr (inv.moveConsumer fun h' it same => ?_)
      cases same
      rw [counters.popHead h (by rw [here]; rfl)]
      exact inv.slots _ le_rfl (counters.nonempty (by rw [here]; rfl))
  | release here => exact .inr (fifo_release counters inv here)

/-! ## Whole runs -/

structure Unbroken (k : Nat) (base : UInt64) (s : RingSystem T) : Prop where
  items : Items s
  counters : Counters k base s
  contents : Contents k base s
  fifo : Overtaken s ∨ Fifo k base s

theorem unbroken_reachable (small : k ≤ 63) (reachable : Reachable (2 ^ k) base Unraced s) :
    Unbroken k base s := by
  refine reachable.invariant ?_ ?_
  · intro s equal
    subst equal
    exact ⟨items_start base, counters_start k base, contents_start k base, .inr (fifo_start k base)⟩
  · intro s a s' inv unraced moved
    have move := step_moves moved
    refine ⟨items_step inv.items move, counters_step small inv.counters move unraced,
      contents_step small inv.items inv.counters inv.contents move unraced, ?_⟩
    rcases inv.fifo with raced | fifo
    · exact .inl (overtaken_step _ raced move unraced)
    · exact fifo_step small inv.counters fifo move unraced

theorem Unbroken.drained (small : k ≤ 63) (inv : Unbroken k base s) (drained : Drained (2 ^ k) s) :
    popped s.log = (accepted s.log).map some := by
  obtain ⟨quiet, -, empty⟩ := drained
  have fifo : Fifo k base s := by
    rcases inv.fifo with ⟨p, x, t, waiting, -⟩ | fifo
    · rw [quiet p] at waiting
      cases waiting
    · exact fifo
  have le := inv.counters.le
  have cap := inv.counters.cap
  have bound := two_pow_lt small
  have equal : s.ring.head = s.ring.tail := by
    by_contra differ
    simp [SpscInner.pop, differ] at empty
  rw [inv.counters.head, inv.counters.tail, counter_eq_iff le (by omega)] at equal
  rw [fifo.pops, equal, List.take_length]

theorem delivers_of_unraced [DecidableEq T] (small : k ≤ 63) (reachable : Reachable (2 ^ k) base Unraced s) :
    Delivers (2 ^ k) s := by
  have inv := unbroken_reachable small reachable
  refine ⟨inv.contents.genuine, inv.contents.once, fun drained item member => ?_⟩
  have once : ((accepted s.log).map some).Nodup :=
    inv.items.acceptedOnce.map (Option.some_injective _)
  rw [inv.drained small drained]
  exact List.count_eq_one_of_mem once (List.mem_map_of_mem member)

end LiveWorld.Proof.SpscQueue

import LiveWorld.Proof.SpscQueue.Moves

/-!
# The items of a run

Every send carries an item of its own: it is written at most once, into at most one slot, and it is
accepted at most once.
-/

namespace LiveWorld.Proof.SpscQueue
open Spec.Delivery RingSystem
variable {T : Type} {N : Nat} {s s' : RingSystem T} {a : Action T}

def item? : PushState T → Option T
  | .idle => none
  | .loadTail item | .loadHead item _ | .reloadHead item _ | .writeSlot item _ | .storeTail item _ => some item

def unwritten? : PushState T → Option T
  | .idle | .storeTail _ _ => none
  | .loadTail item | .loadHead item _ | .reloadHead item _ | .writeSlot item _ => some item

@[simp] theorem senders_setSender (s : RingSystem T) (p q : Nat) (st : PushState (Sent T)) :
    (s.setSender p st).senders q = if q = p then st else s.senders q := by
  simp [setSender, Function.update_apply]

@[simp] theorem ring_setSender (s : RingSystem T) (p : Nat) (st : PushState (Sent T)) :
    (s.setSender p st).ring = s.ring := rfl

@[simp] theorem tickets_setSender (s : RingSystem T) (p : Nat) (st : PushState (Sent T)) :
    (s.setSender p st).tickets = s.tickets := rfl

@[simp] theorem log_setSender (s : RingSystem T) (p : Nat) (st : PushState (Sent T)) :
    (s.setSender p st).log = s.log := rfl

structure Items (s : RingSystem T) : Prop where
  issued : ∀ p x, item? (s.senders p) = some x → x.ticket < s.tickets
  distinct : ∀ p q x, item? (s.senders p) = some x → item? (s.senders q) = some x → p = q
  pending : ∀ p x, item? (s.senders p) = some x → x ∉ accepted s.log
  unwritten : ∀ p x, unwritten? (s.senders p) = some x → x ∉ written s.log
  writtenIssued : ∀ x ∈ written s.log, x.ticket < s.tickets
  storing : ∀ p x tail, s.senders p = .storeTail x tail → x ∈ written s.log
  acceptedWritten : ∀ x ∈ accepted s.log, x ∈ written s.log
  acceptedOnce : (accepted s.log).Nodup
  stored : ∀ j x, s.ring.buf j = some x → x ∈ written s.log
  oneSlot : ∀ i j x, s.ring.buf i = some x → s.ring.buf j = some x → i = j

theorem items_start (base : UInt64) : Items (start base : RingSystem T) := by
  constructor <;> simp [start, item?, unwritten?, accepted, written, SpscInner.new]

theorem unwritten?_item {st : PushState T} {x : T} (held : unwritten? st = some x) : item? st = some x := by
  cases st <;> simp_all [item?, unwritten?]

/-- A step that only moves one sender to a state `st` with the same item, or with none. -/
theorem Items.moveSender (inv : Items s) {p : Nat} {st : PushState (Sent T)}
    (senders : ∀ q, s'.senders q = if q = p then st else s.senders q)
    (ring : s'.ring.buf = s.ring.buf) (tickets : s'.tickets = s.tickets)
    (accepts : accepted s'.log = accepted s.log) (writes : written s'.log = written s.log)
    (item : ∀ x, item? st = some x → unwritten? (s.senders p) = some x)
    (moving : ∀ x tail, st ≠ .storeTail x tail) : Items s' := by
  have held (q : Nat) (x : Sent T) (h : item? (s'.senders q) = some x) : item? (s.senders q) = some x := by
    rw [senders] at h
    split_ifs at h with same
    · subst same
      exact unwritten?_item (item x h)
    · exact h
  constructor
  · exact fun q x h => tickets ▸ inv.issued q x (held q x h)
  · exact fun q r x h h' => inv.distinct q r x (held q x h) (held r x h')
  · exact fun q x h => accepts ▸ inv.pending q x (held q x h)
  · intro q x h
    rw [senders] at h
    rw [writes]
    split_ifs at h with same
    · subst same
      exact inv.unwritten q x (item x (unwritten?_item h))
    · exact inv.unwritten q x h
  · exact fun x h => tickets ▸ inv.writtenIssued x (writes ▸ h)
  · intro q x tail h
    rw [senders] at h
    split_ifs at h with same
    · exact absurd h (moving x tail)
    · exact writes ▸ inv.storing q x tail h
  · rw [accepts, writes]
    exact inv.acceptedWritten
  · rw [accepts]
    exact inv.acceptedOnce
  · rw [ring, writes]
    exact inv.stored
  · rw [ring]
    exact inv.oneSlot

theorem Items.consume (inv : Items s) (senders : s'.senders = s.senders)
    (ring : s'.ring.buf = s.ring.buf) (tickets : s'.tickets = s.tickets)
    (accepts : accepted s'.log = accepted s.log) (writes : written s'.log = written s.log) : Items s' := by
  constructor <;> simp only [senders, ring, tickets, accepts, writes]
  · exact inv.issued
  · exact inv.distinct
  · exact inv.pending
  · exact inv.unwritten
  · exact inv.writtenIssued
  · exact inv.storing
  · exact inv.acceptedWritten
  · exact inv.acceptedOnce
  · exact inv.stored
  · exact inv.oneSlot

theorem items_send (inv : Items s) (p : Nat) (body : T) :
    Items { s.setSender p (.loadTail ⟨s.tickets, body⟩) with tickets := s.tickets + 1 } := by
  -- the new item has the next ticket, which nothing so far carries
  have fresh (x : Sent T) (h : x ∈ written s.log) : x ≠ ⟨s.tickets, body⟩ := by
    intro equal
    subst equal
    exact absurd (inv.writtenIssued _ h) (lt_irrefl _)
  have unheld (q : Nat) : item? (s.senders q) ≠ some ⟨s.tickets, body⟩ :=
    fun h => absurd (inv.issued q _ h) (lt_irrefl _)
  have split (q : Nat) (x : Sent T) (h : item? (if q = p then .loadTail ⟨s.tickets, body⟩ else s.senders q) = some x) :
      (q = p ∧ x = ⟨s.tickets, body⟩) ∨ item? (s.senders q) = some x := by
    split_ifs at h with same
    · exact .inl ⟨same, (Option.some.inj h).symm⟩
    · exact .inr h
  constructor <;> simp only [senders_setSender, ring_setSender, log_setSender]
  · intro q x h
    rcases split q x h with ⟨-, rfl⟩ | h
    · exact Nat.lt_succ_self _
    · exact Nat.lt_succ_of_lt (inv.issued q x h)
  · intro q r x h h'
    rcases split q x h with ⟨mine, new⟩ | held
    · rcases split r x h' with ⟨mine', -⟩ | held'
      · rw [mine, mine']
      · exact absurd (new ▸ held') (unheld r)
    · rcases split r x h' with ⟨-, new⟩ | held'
      · exact absurd (new ▸ held) (unheld q)
      · exact inv.distinct q r x held held'
  · intro q x h member
    rcases split q x h with ⟨-, rfl⟩ | h
    · exact fresh _ (inv.acceptedWritten _ member) rfl
    · exact inv.pending q x h member
  · intro q x h member
    split_ifs at h with same
    · exact fresh x member (Option.some.inj h).symm
    · exact inv.unwritten q x h member
  · exact fun x h => Nat.lt_succ_of_lt (inv.writtenIssued x h)
  · intro q x tail h
    split_ifs at h with same
    exact inv.storing q x tail h
  · exact inv.acceptedWritten
  · exact inv.acceptedOnce
  · exact inv.stored
  · exact inv.oneSlot

theorem items_write (inv : Items s) {p : Nat} {item : Sent T} {tail : UInt64} {j : Nat}
    (here : s.senders p = .writeSlot item tail) :
    Items (({ s with ring := { s.ring with buf := Function.update s.ring.buf j (some item) } }.setSender p
      (.storeTail item tail)).record (.wrote p item)) := by
  have fresh : item ∉ written s.log := inv.unwritten p item (by rw [here]; rfl)
  have holds : item? (s.senders p) = some item := by rw [here]; rfl
  have held (q : Nat) (x : Sent T) (h : item? (if q = p then .storeTail item tail else s.senders q) = some x) :
      item? (s.senders q) = some x := by
    split_ifs at h with same
    · rw [same, holds]
      exact h
    · exact h
  constructor <;> simp only [record, written, accepted, senders_setSender, ring_setSender, tickets_setSender,
    log_setSender]
  · exact fun q x h => inv.issued q x (held q x h)
  · exact fun q r x h h' => inv.distinct q r x (held q x h) (held r x h')
  · exact fun q x h => inv.pending q x (held q x h)
  · intro q x h member
    split_ifs at h with same
    · cases h
    · rcases List.mem_cons.mp member with rfl | member
      · exact same (inv.distinct q p x (unwritten?_item h) holds)
      · exact inv.unwritten q x h member
  · intro x h
    rcases List.mem_cons.mp h with rfl | h
    · exact inv.issued p x holds
    · exact inv.writtenIssued x h
  · intro q x u h
    split_ifs at h with same
    · cases h
      exact List.mem_cons_self
    · exact List.mem_cons_of_mem _ (inv.storing q x u h)
  · exact fun x h => List.mem_cons_of_mem _ (inv.acceptedWritten x h)
  · exact inv.acceptedOnce
  · intro i x h
    rw [Function.update_apply] at h
    split_ifs at h with same
    · exact Option.some.inj h ▸ List.mem_cons_self
    · exact List.mem_cons_of_mem _ (inv.stored i x h)
  · intro i i' x h h'
    rw [Function.update_apply] at h h'
    split_ifs at h h' with same same' same'
    · rw [same, same']
    · cases h
      exact absurd (inv.stored i' _ h') fresh
    · cases h'
      exact absurd (inv.stored i _ h) fresh
    · exact inv.oneSlot i i' x h h'

theorem items_store (inv : Items s) {p : Nat} {item : Sent T} {tail : UInt64}
    (here : s.senders p = .storeTail item tail) :
    Items (({ s with ring := { s.ring with tail := tail + 1 } }.setSender p .idle).record (.stored p item)) := by
  have holds : item? (s.senders p) = some item := by rw [here]; rfl
  have held (q : Nat) (x : Sent T) (h : item? (if q = p then .idle else s.senders q) = some x) :
      q ≠ p ∧ item? (s.senders q) = some x := by
    split_ifs at h with same
    · cases h
    · exact ⟨same, h⟩
  constructor <;> simp only [record, written, accepted, senders_setSender, ring_setSender, tickets_setSender,
    log_setSender]
  · exact fun q x h => inv.issued q x (held q x h).2
  · exact fun q r x h h' => inv.distinct q r x (held q x h).2 (held r x h').2
  · intro q x h member
    obtain ⟨other, h⟩ := held q x h
    rcases List.mem_append.mp member with member | member
    · exact inv.pending q x h member
    · rw [List.mem_singleton] at member
      exact other (inv.distinct q p x h (member ▸ holds))
  · intro q x h
    split_ifs at h
    · cases h
    · exact inv.unwritten q x h
  · exact inv.writtenIssued
  · intro q x u h
    split_ifs at h
    exact inv.storing q x u h
  · intro x h
    rcases List.mem_append.mp h with h | h
    · exact inv.acceptedWritten x h
    · rw [List.mem_singleton] at h
      exact h ▸ inv.storing p item tail here
  · rw [List.nodup_append]
    refine ⟨inv.acceptedOnce, List.nodup_singleton _, ?_⟩
    intro x member y single equal
    subst equal
    rw [List.mem_singleton] at single
    exact inv.pending p item holds (single ▸ member)
  · exact inv.stored
  · exact inv.oneSlot

theorem items_step (inv : Items s) (move : Moves N s a s') : Items s' := by
  cases move with
  | send _ => exact items_send inv _ _
  | loadTail here | collide here _ | room here _ | overtaken here _ =>
      refine inv.moveSender (fun q => senders_setSender s _ q _) rfl rfl rfl rfl ?_ (by simp)
      rw [here]
      exact fun x h => h
  | refuse here _ =>
      exact inv.moveSender (fun q => senders_setSender s _ q _) rfl rfl rfl rfl (by simp [item?]) (by simp)
  | write here => exact items_write inv here
  | store here => exact items_store inv here
  | callPop _ | readHead _ | empty _ _ | ready _ _ | read _ | release _ => exact inv.consume rfl rfl rfl rfl rfl

end LiveWorld.Proof.SpscQueue

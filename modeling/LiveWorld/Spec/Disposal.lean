import LiveWorld.Spec.Delivery

/-!
# The end of a ring

When the last handle is dropped nobody works on the ring any more, and what is left in it is popped and dropped.
-/

namespace LiveWorld.Spec.Delivery
variable {T : Type}

def Quiet (s : RingSystem T) : Prop := (∀ p, s.senders p = .idle) ∧ s.consumer = .idle

/-- Every accepted item went to the consumer or is dropped now, once and in order, and `len` told how many are left. -/
structure Disposes (s : RingSystem T) (dropped : List (Option (Sent T))) (ring : SpscInner (Sent T)) : Prop where
  all : popped s.log ++ dropped = (accepted s.log).map some
  once : (popped s.log ++ dropped).Nodup
  counted : s.ring.len.toNat = dropped.length
  empty : ring.isEmpty = true

end LiveWorld.Spec.Delivery

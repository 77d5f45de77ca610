import LiveWorld.Spec.Delivery
import Mathlib.Tactic

/-!
# The moves of the ring system

`Moves` lists everything one step can do, with its guard and its result; `step_moves` is the only
place where the step function is unfolded.
-/

namespace LiveWorld.Proof.SpscQueue
open Spec.Delivery RingSystem
variable {T : Type} {N : Nat}

inductive Moves (N : Nat) (s : RingSystem T) : Action T → RingSystem T → Prop
  | send {p : Nat} {body : T} (ready : s.senders p = .idle) :
      Moves N s (.send p body)
        { s.setSender p (.loadTail ⟨s.tickets, body⟩) with tickets := s.tickets + 1 }
  | loadTail {p : Nat} {item : Sent T} (here : s.senders p = .loadTail item) :
      Moves N s (.advance p) ((s.setSender p (.loadHead item s.ring.tail)).record (.loadedTail p))
  | collide {p : Nat} {item : Sent T} {tail : UInt64} (here : s.senders p = .loadHead item tail)
      (equal : tail + 1 &&& SpscInner.mask N = s.ring.head &&& SpscInner.mask N) :
      Moves N s (.advance p) (s.setSender p (.reloadHead item tail))
  | room {p : Nat} {item : Sent T} {tail : UInt64} (here : s.senders p = .loadHead item tail)
      (differ : tail + 1 &&& SpscInner.mask N ≠ s.ring.head &&& SpscInner.mask N) :
      Moves N s (.advance p) (s.setSender p (.writeSlot item tail))
  | refuse {p : Nat} {item : Sent T} {tail : UInt64} (here : s.senders p = .reloadHead item tail)
      (full : tail + 1 ≠ s.ring.head) :
      Moves N s (.advance p) ((s.setSender p .idle).record (.refused p item))
  | overtaken {p : Nat} {item : Sent T} {tail : UInt64} (here : s.senders p = .reloadHead item tail)
      (empty : tail + 1 = s.ring.head) :
      Moves N s (.advance p) (s.setSender p (.writeSlot item tail))
  | write {p : Nat} {item : Sent T} {tail : UInt64} (here : s.senders p = .writeSlot item tail) :
      Moves N s (.advance p)
        (({ s with ring := { s.ring with
            buf := Function.update s.ring.buf (SpscInner.slot N tail) (some item) } }.setSender p
          (.storeTail item tail)).record (.wrote p item))
  | store {p : Nat} {item : Sent T} {tail : UInt64} (here : s.senders p = .storeTail item tail) :
      Moves N s (.advance p)
        (({ s with ring := { s.ring with tail := tail + 1 } }.setSender p .idle).record (.stored p item))
  | callPop (ready : s.consumer = .idle) : Moves N s .pop { s with consumer := .loadHead }
  | readHead (here : s.consumer = .loadHead) :
      Moves N s .consume { s with consumer := .loadTail s.ring.head }
  | empty {head : UInt64} (here : s.consumer = .loadTail head) (equal : head = s.ring.tail) :
      Moves N s .consume { s with consumer := .idle }
  | ready {head : UInt64} (here : s.consumer = .loadTail head) (differ : head ≠ s.ring.tail) :
      Moves N s .consume { s with consumer := .readSlot head }
  | read {head : UInt64} (here : s.consumer = .readSlot head) :
      Moves N s .consume { s with consumer := .storeHead head (s.ring.buf (SpscInner.slot N head)) }
  | release {head : UInt64} {item : Option (Sent T)} (here : s.consumer = .storeHead head item) :
      Moves N s .consume
        ({ s with ring := { s.ring with head := head + 1 }, consumer := .idle }.record (.popped item))

theorem step_moves {s s' : RingSystem T} {a : Action T} (moved : RingSystem.step N s a = some s') :
    Moves N s a s' := by
  cases a with
  | send p body =>
      simp only [RingSystem.step] at moved
      split at moved
      · cases moved
        exact .send ‹_›
      · cases moved
  | advance p =>
      simp only [RingSystem.step, advanceSender] at moved
      split at moved
      · cases moved
      · cases moved
        exact .loadTail ‹_›
      · split_ifs at moved with equal <;> cases moved
        · exact .collide ‹_› equal
        · exact .room ‹_› equal
      · split_ifs at moved with full <;> cases moved
        · exact .refuse ‹_› full
        · exact .overtaken ‹_› (not_not.mp full)
      · cases moved
        exact .write ‹_›
      · cases moved
        exact .store ‹_›
  | pop =>
      simp only [RingSystem.step] at moved
      split at moved
      · cases moved
        exact .callPop ‹_›
      · cases moved
  | consume =>
      simp only [RingSystem.step, advanceConsumer] at moved
      split at moved
      · cases moved
      · cases moved
        exact .readHead ‹_›
      · split_ifs at moved with equal <;> cases moved
        · exact .empty ‹_› equal
        · exact .ready ‹_› equal
      · cases moved
        exact .read ‹_›
      · cases moved
        exact .release ‹_›

end LiveWorld.Proof.SpscQueue

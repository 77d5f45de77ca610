import Mathlib.Logic.Function.Basic

/-!
# The ring queue

`SpscInner` is a power-of-two ring with free-running `usize` counters. `push` and `pop` are the two
operations run without interference. `RingSystem` runs any number of senders and one consumer on one
ring, where every atomic load, slot access and atomic store is a step of its own.
-/

namespace LiveWorld

/-- A slot holds `none` until it is first written; reading it then is undefined. -/
structure SpscInner (T : Type) where
  head : UInt64
  tail : UInt64
  buf : Nat → Option T

namespace SpscInner
variable {T : Type}

def mask (N : Nat) : UInt64 := UInt64.ofNat (N - 1)

def slot (N : Nat) (counter : UInt64) : Nat := (counter &&& mask N).toNat

def new : SpscInner T := ⟨0, 0, fun _ => none⟩

def push (N : Nat) (self : SpscInner T) (item : T) : Bool × SpscInner T :=
  let tail := self.tail
  let nextTail := tail + 1
  if nextTail &&& mask N = self.head &&& mask N ∧ nextTail ≠ self.head then (false, self)
  else (true, { self with buf := Function.update self.buf (slot N tail) (some item), tail := nextTail })

/-- `none` when the queue is empty; otherwise the content of the slot at `head`. -/
def pop (N : Nat) (self : SpscInner T) : Option (Option T) × SpscInner T :=
  let head := self.head
  if head = self.tail then (none, self)
  else (some (self.buf (slot N head)), { self with head := head + 1 })

def len (self : SpscInner T) : UInt64 := self.tail - self.head

def isEmpty (self : SpscInner T) : Bool := self.len == 0

/-- `while self.pop().is_some() {}`, with the slots that it drops; `none` if the fuel runs out. -/
def drop (N : Nat) : Nat → SpscInner T → Option (List (Option T) × SpscInner T)
  | 0, _ => none
  | fuel + 1, self =>
      match self.pop N with
      | (none, self) => some ([], self)
      | (some item, self) => (drop N fuel self).map fun rest => (item :: rest.1, rest.2)

end SpscInner

/-! ## Interleaved senders and one consumer -/

/-- Where a call of `push` stands; each constructor names the access it performs next. -/
inductive PushState (T : Type)
  | idle
  | loadTail (item : T)
  | loadHead (item : T) (tail : UInt64)
  | reloadHead (item : T) (tail : UInt64)
  | writeSlot (item : T) (tail : UInt64)
  | storeTail (item : T) (tail : UInt64)
  deriving DecidableEq

inductive PopState (T : Type)
  | idle
  | loadHead
  | loadTail (head : UInt64)
  | readSlot (head : UInt64)
  | storeHead (head : UInt64) (item : Option T)
  deriving DecidableEq

inductive Event (T : Type)
  | loadedTail (sender : Nat)
  | wrote (sender : Nat) (item : T)
  /-- the tail store, after which `push` returns `true` -/
  | stored (sender : Nat) (item : T)
  | refused (sender : Nat) (item : T)
  | popped (item : Option T)
  deriving DecidableEq

inductive Action (T : Type)
  | send (sender : Nat) (body : T)
  | advance (sender : Nat)
  | pop
  | consume

/-- A message with the number of its send, so that two sends of equal messages are told apart. -/
structure Sent (T : Type) where
  ticket : Nat
  body : T
  deriving DecidableEq

/-- The newest event is at the head of `log`. -/
structure RingSystem (T : Type) where
  ring : SpscInner (Sent T)
  senders : Nat → PushState (Sent T)
  consumer : PopState (Sent T)
  tickets : Nat
  log : List (Event (Sent T))

namespace RingSystem
variable {T : Type}

def start (base : UInt64) : RingSystem T where
  ring := { SpscInner.new with head := base, tail := base }
  senders := fun _ => .idle
  consumer := .idle
  tickets := 0
  log := []

def setSender (s : RingSystem T) (p : Nat) (st : PushState (Sent T)) : RingSystem T :=
  { s with senders := Function.update s.senders p st }

def record (s : RingSystem T) (e : Event (Sent T)) : RingSystem T := { s with log := e :: s.log }

def advanceSender (N : Nat) (s : RingSystem T) (p : Nat) : Option (RingSystem T) :=
  match s.senders p with
  | .idle => none
  | .loadTail item => some ((s.setSender p (.loadHead item s.ring.tail)).record (.loadedTail p))
  | .loadHead item tail =>
      if tail + 1 &&& SpscInner.mask N = s.ring.head &&& SpscInner.mask N
      then some (s.setSender p (.reloadHead item tail))
      else some (s.setSender p (.writeSlot item tail))
  | .reloadHead item tail =>
      if tail + 1 ≠ s.ring.head then some ((s.setSender p .idle).record (.refused p item))
      else some (s.setSender p (.writeSlot item tail))
  | .writeSlot item tail =>
      let buf := Function.update s.ring.buf (SpscInner.slot N tail) (some item)
      some (({ s with ring := { s.ring with buf } }.setSender p (.storeTail item tail)).record (.wrote p item))
  | .storeTail item tail =>
      some (({ s with ring := { s.ring with tail := tail + 1 } }.setSender p .idle).record (.stored p item))

def advanceConsumer (N : Nat) (s : RingSystem T) : Option (RingSystem T) :=
  match s.consumer with
  | .idle => none
  | .loadHead => some { s with consumer := .loadTail s.ring.head }
  | .loadTail head =>
      if head = s.ring.tail then some { s with consumer := .idle }
      else some { s with consumer := .readSlot head }
  | .readSlot head =>
      some { s with consumer := .storeHead head (s.ring.buf (SpscInner.slot N head)) }
  | .storeHead head item =>
      some ({ s with ring := { s.ring with head := head + 1 }, consumer := .idle }.record (.popped item))

def step (N : Nat) (s : RingSystem T) : Action T → Option (RingSystem T)
  | .send p body =>
      match s.senders p with
      | .idle => some { s.setSender p (.loadTail ⟨s.tickets, body⟩) with tickets := s.tickets + 1 }
      | _ => none
  | .advance p => advanceSender N s p
  | .pop =>
      match s.consumer with
      | .idle => some { s with consumer := .loadHead }
      | _ => none
  | .consume => advanceConsumer N s

end RingSystem

end LiveWorld

import LiveWorld.Actor

/-!
# Experience, levels and damage

An actor is drained again and again, each time of what is in its inbox. `done` are the drains so far, each the list of
the messages it has found.
-/

namespace LiveWorld.Spec
open Machine

def born (inboxes : Inboxes) (spec : ActorSpec) : Actor := (Actor.spawn inboxes spec).1.1

def drainAll (actor : Actor) (drains : List (List ActorMessage)) : Actor :=
  drains.foldl (fun actor messages => (actor.drainInbox messages).1) actor

/-- The messages that a drain gets to. -/
def handled (messages : List ActorMessage) : List ActorMessage := messages.takeWhile (· ≠ .Shutdown)

/-! ## Experience -/

def gained : ActorMessage → Option UInt32
  | .GainXp amount => some amount
  | _ => none

def gains (messages : List ActorMessage) : List UInt32 := (handled messages).filterMap gained

def totalXp (amounts : List UInt32) : UInt32 := amounts.foldl saturatingAdd32 0

/-- Whether `(xp / 100) as u8 + 1` fits. -/
def levelFits (xp : UInt32) : Bool := decide ((xp / 100).toUInt8.toNat + 1 < 256)

/-- No level overflows while the messages are drained. -/
def levelsFit (actor : Actor) : List ActorMessage → Bool
  | [] => true
  | msg :: rest =>
      (match gained msg with
        | some amount => levelFits (saturatingAdd32 actor.state.xp amount)
        | none => true) &&
      (msg = .Shutdown || levelsFit (actor.handleMessage msg).1 rest)

structure LevelFollows (actor : Actor) (drains : List (List ActorMessage)) : Prop where
  level : ∀ done, done <+: drains →
    (drainAll actor done).state.level.toNat = min ((totalXp (done.flatMap gains)).toNat / 100 + 1) 10
  fits : ∀ done next, done ++ [next] <+: drains → levelsFit (drainAll actor done) next = true

/-- Hundreds of points, as far as a byte counts them. -/
def hundreds (xp : UInt32) : Nat := xp.toNat / 100 % 256

/-- No gain leads to 255 hundreds, and who has 256 hundreds or more at the end of a drain has had 9 of them, as a byte
counts them, before. -/
structure LevelsInByte (drains : List (List ActorMessage)) : Prop where
  below : ∀ amounts, amounts <+: drains.flatMap gains → hundreds (totalXp amounts) ≠ 255
  reached : ∀ done, done <+: drains → 25600 ≤ (totalXp (done.flatMap gains)).toNat →
    ∃ amounts, amounts <+: done.flatMap gains ∧ 9 ≤ hundreds (totalXp amounts)

/-! ## Damage -/

/-- The damage since birth or the last death, which is when it reaches `maxHp`. -/
def suffered (maxHp : Nat) : Nat → List ActorMessage → Nat
  | total, [] => total
  | total, .TakeDamage amount _ :: rest =>
      suffered maxHp (if maxHp ≤ total + amount.toNat then 0 else total + amount.toNat) rest
  | total, _ :: rest => suffered maxHp total rest

def reports (spec : ActorSpec) (maxHp : Nat) : Nat → List ActorMessage → List ActorEffect
  | _, [] => []
  | total, .TakeDamage amount fromName :: rest =>
      if maxHp ≤ total + amount.toNat then .Died spec.id spec.name fromName :: reports spec maxHp 0 rest
      else
        .Damaged spec.id (UInt8.ofNat (maxHp - (total + amount.toNat))) ::
          reports spec maxHp (total + amount.toNat) rest
  | total, _ :: rest => reports spec maxHp total rest

def isReport : ActorEffect → Bool
  | .Damaged _ _ | .Died _ _ _ => true
  | _ => false

/-- The accounts of `actor`, which was `first` at birth, after `messages`. -/
structure Healthy (first actor : Actor) (messages : List ActorMessage) : Prop where
  alive : 1 ≤ actor.state.hp
  most : actor.state.hp ≤ actor.state.maxHp
  maxHp : actor.state.maxHp = first.state.maxHp
  hp : actor.state.hp.toNat + suffered first.state.maxHp.toNat 0 messages = first.state.maxHp.toNat
  level : 1 ≤ actor.state.level ∧ actor.state.level ≤ 10

/-- What happens while `next` is drained, after `done`. -/
structure Accounted (first : Actor) (done : List (List ActorMessage)) (next : List ActorMessage) : Prop where
  healthy : ∀ front, front <+: next →
    Healthy first (drainAll first (done ++ [front])) ((done ++ [front]).flatMap handled)
  effects : ((drainAll first done).drainInbox next).2.1.filter isReport =
    reports first.spec first.state.maxHp.toNat
      (suffered first.state.maxHp.toNat 0 (done.flatMap handled)) (handled next)
  grows : ∀ early late, early <+: late → late <+: next →
    (drainAll first (done ++ [early])).state.level ≤ (drainAll first (done ++ [late])).state.level ∧
      (drainAll first (done ++ [early])).state.xp ≤ (drainAll first (done ++ [late])).state.xp

end LiveWorld.Spec

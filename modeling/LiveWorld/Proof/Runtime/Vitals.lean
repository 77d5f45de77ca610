import LiveWorld.Proof.Runtime.Batching
import LiveWorld.Spec.Vitals

/-!
# What drains do to an actor's vitals

Hit points, experience and level after any drains are those after the messages that the drains got to, one after the
other.
-/

namespace LiveWorld.Proof.Runtime
open Machine Spec
variable {actor : Actor} {messages : List ActorMessage} {drains : List (List ActorMessage)} {amounts : List UInt32}

theorem handled_cons {msg : ActorMessage} (other : msg ≠ .Shutdown) (rest : List ActorMessage) :
    handled (msg :: rest) = msg :: handled rest := by
  simp [handled, other]

theorem handled_shutdown (rest : List ActorMessage) : handled (.Shutdown :: rest) = [] := by
  simp [handled]

theorem sameVitals_drainInbox (actor : Actor) (messages : List ActorMessage) :
    SameVitals (actor.drainInbox messages).1 (handleAll actor (handled messages)) := by
  induction messages generalizing actor with
  | nil => exact .refl actor
  | cons msg rest ih =>
      by_cases ended : msg = .Shutdown
      · subst ended
        rw [handled_shutdown]
        exact ⟨rfl, rfl, rfl, rfl, rfl⟩
      · rw [handled_cons ended]
        simp only [Actor.drainInbox, if_neg ended]
        exact ih (actor.handleMessage msg).1

theorem handleAll_append (actor : Actor) (early late : List ActorMessage) :
    handleAll actor (early ++ late) = handleAll (handleAll actor early) late := List.foldl_append

theorem drainAll_concat (actor : Actor) (done : List (List ActorMessage)) (next : List ActorMessage) :
    drainAll actor (done ++ [next]) = ((drainAll actor done).drainInbox next).1 := List.foldl_concat ..

theorem sameVitals_drainAll (actor : Actor) (drains : List (List ActorMessage)) :
    SameVitals (drainAll actor drains) (handleAll actor (drains.flatMap handled)) := by
  induction drains using List.reverseRecOn with
  | nil => exact .refl actor
  | append_singleton done next ih =>
      rw [drainAll_concat, List.flatMap_append, handleAll_append, List.flatMap_singleton]
      exact (sameVitals_drainInbox _ next).trans (ih.handleAll (handled next))

theorem flatMap_gains (drains : List (List ActorMessage)) :
    drains.flatMap gains = (drains.flatMap handled).filterMap gained := (List.filterMap_flatMap ..).symm

/-! ## Experience -/

structure Merit where
  xp : UInt32
  level : UInt8

/-- What a gain does, apart from the report. -/
def earn (s : Merit) (amount : UInt32) : Merit :=
  let xp := saturatingAdd32 s.xp amount
  let newLevel := min ((xp / 100).toUInt8 + 1) 10
  ⟨xp, if newLevel > s.level then newLevel else s.level⟩

def meritOf (actor : Actor) : Merit := ⟨actor.state.xp, actor.state.level⟩

theorem meritOf_handleMessage (actor : Actor) (msg : ActorMessage) :
    meritOf (actor.handleMessage msg).1 = ((gained msg).map (earn (meritOf actor))).getD (meritOf actor) := by
  cases msg with
  | TakeDamage amount fromName =>
      simp only [Actor.handleMessage, Actor.takeDamage]
      split_ifs <;> rfl
  | GainXp amount =>
      simp only [Actor.handleMessage, Actor.gainXp, gained, Option.map_some, Option.getD_some, earn, meritOf]
      split_ifs <;> rfl
  | _ => rfl

theorem meritOf_handleAll (actor : Actor) (messages : List ActorMessage) :
    meritOf (handleAll actor messages) = (messages.filterMap gained).foldl earn (meritOf actor) := by
  induction messages generalizing actor with
  | nil => rfl
  | cons msg rest ih =>
      refine (ih (actor.handleMessage msg).1).trans ?_
      rw [meritOf_handleMessage, List.filterMap_cons]
      cases gained msg <;> rfl

theorem meritOf_drainAll (actor : Actor) (drains : List (List ActorMessage)) :
    meritOf (drainAll actor drains) = (drains.flatMap gains).foldl earn (meritOf actor) := by
  rw [flatMap_gains, ← meritOf_handleAll]
  have same := sameVitals_drainAll actor drains
  rw [meritOf, same.xp, same.level]
  rfl

def novice : Merit := ⟨0, 1⟩

theorem xp_earned (amounts : List UInt32) : (amounts.foldl earn novice).xp = totalXp amounts := by
  induction amounts using List.reverseRecOn with
  | nil => rfl
  | append_singleton amounts amount ih =>
      rw [List.foldl_concat, totalXp, List.foldl_concat, ← totalXp, ← ih]
      rfl

/-- Gains only add to what there is. -/
structure Merit.Le (one two : Merit) : Prop where
  xp : one.xp ≤ two.xp
  level : one.level ≤ two.level

theorem earn_le (s : Merit) (amount : UInt32) : s.Le (earn s amount) := by
  refine ⟨saturatingAdd32_le s.xp amount, ?_⟩
  simp only [earn]
  split_ifs with higher
  · exact UInt8.le_of_lt higher
  · exact UInt8.le_refl s.level

theorem earned_le (s : Merit) (amounts : List UInt32) : s.Le (amounts.foldl earn s) := by
  induction amounts generalizing s with
  | nil => exact ⟨UInt32.le_refl _, UInt8.le_refl _⟩
  | cons amount rest ih =>
      have now := earn_le s amount
      have later := ih (earn s amount)
      exact ⟨UInt32.le_trans now.xp later.xp, UInt8.le_trans now.level later.level⟩

/-! ## The level as a byte computes it -/

/-- The level for `xp`, if the computation does not overflow. -/
def rank (xp : UInt32) : Nat := min (hundreds xp + 1) 10

theorem toNat_hundreds (xp : UInt32) : (xp / 100).toUInt8.toNat = hundreds xp := by
  rw [UInt32.toNat_toUInt8, UInt32.toNat_div]
  rfl

theorem levelFits_iff (xp : UInt32) : levelFits xp = true ↔ hundreds xp ≠ 255 := by
  have byte : hundreds xp < 256 := Nat.mod_lt _ (by decide)
  rw [levelFits, decide_eq_true_iff, toNat_hundreds]
  omega

theorem toNat_newLevel {xp : UInt32} (fits : hundreds xp ≠ 255) :
    (min ((xp / 100).toUInt8 + 1) 10 : UInt8).toNat = rank xp := by
  have byte : hundreds xp < 256 := Nat.mod_lt _ (by decide)
  have sum : ((xp / 100).toUInt8 + 1).toNat = hundreds xp + 1 := by
    rw [UInt8.toNat_add, toNat_hundreds]
    change (hundreds xp + 1) % 256 = _
    omega
  change (if (xp / 100).toUInt8 + 1 ≤ 10 then (xp / 100).toUInt8 + 1 else 10).toNat = _
  have few : (xp / 100).toUInt8 + 1 ≤ 10 ↔ hundreds xp + 1 ≤ 10 := by
    rw [UInt8.le_iff_toNat_le, sum]
    rfl
  by_cases low : hundreds xp + 1 ≤ 10
  · rw [if_pos (few.mpr low), sum, rank, min_eq_left low]
  · rw [if_neg (mt few.mp low), rank, min_eq_right (Nat.le_of_not_le low)]
    rfl

theorem level_earn {s : Merit} {amount : UInt32} (fits : hundreds (saturatingAdd32 s.xp amount) ≠ 255) :
    (earn s amount).level.toNat = max s.level.toNat (rank (saturatingAdd32 s.xp amount)) := by
  simp only [earn]
  rw [← toNat_newLevel fits]
  split_ifs with higher
  · rw [gt_iff_lt, UInt8.lt_iff_toNat_lt] at higher
    exact (max_eq_right higher.le).symm
  · rw [gt_iff_lt, UInt8.lt_iff_toNat_lt, Nat.not_lt] at higher
    exact (max_eq_left higher).symm

/-- The level is the highest of the ranks that were reached. -/
structure Highest (amounts : List UInt32) (level : Nat) : Prop where
  bound : ∀ front, front <+: amounts → rank (totalXp front) ≤ level
  attained : ∃ front, front <+: amounts ∧ rank (totalXp front) = level

theorem highest (below : ∀ front, front <+: amounts → hundreds (totalXp front) ≠ 255) :
    Highest amounts (amounts.foldl earn novice).level.toNat := by
  induction amounts using List.reverseRecOn with
  | nil =>
      refine ⟨fun front short => ?_, [], List.prefix_rfl, rfl⟩
      rw [List.prefix_nil.mp short]
      exact Nat.le_refl 1
  | append_singleton amounts amount ih =>
      have before := ih fun front short => below front (short.trans (List.prefix_append _ _))
      have total : totalXp (amounts ++ [amount]) = saturatingAdd32 (amounts.foldl earn novice).xp amount := by
        rw [xp_earned, totalXp, List.foldl_concat]
        rfl
      have level := level_earn (total ▸ below _ List.prefix_rfl)
      rw [List.foldl_concat, level, ← total]
      refine ⟨fun front short => ?_, ?_⟩
      · rcases List.prefix_concat_iff.mp short with rfl | earlier
        · exact le_max_right _ _
        · exact (before.bound front earlier).trans (le_max_left _ _)
      · rcases le_total (amounts.foldl earn novice).level.toNat (rank (totalXp (amounts ++ [amount]))) with higher | lower
        · exact ⟨amounts ++ [amount], List.prefix_rfl, (max_eq_right higher).symm⟩
        · obtain ⟨front, earlier, same⟩ := before.attained
          exact ⟨front, earlier.trans (List.prefix_append _ _), same.trans (max_eq_left lower).symm⟩

theorem totalXp_mono {front : List UInt32} (short : front <+: amounts) : totalXp front ≤ totalXp amounts := by
  obtain ⟨rest, rfl⟩ := short
  rw [← xp_earned, ← xp_earned, List.foldl_append]
  exact (earned_le _ rest).xp

/-- The level is right if the experience fits, or if the highest level was reached anyway. -/
theorem Highest.right_iff {level : Nat} (highest : Highest amounts level) :
    level = min ((totalXp amounts).toNat / 100 + 1) 10 ↔
      (25600 ≤ (totalXp amounts).toNat → ∃ front, front <+: amounts ∧ 9 ≤ hundreds (totalXp front)) := by
  obtain ⟨bound, front, short, attained⟩ := highest
  have last := bound amounts List.prefix_rfl
  by_cases small : (totalXp amounts).toNat < 25600
  · refine iff_of_true ?_ fun large => absurd small (Nat.not_lt.mpr large)
    have less := UInt32.le_iff_toNat_le.mp (totalXp_mono short)
    unfold rank hundreds at attained last
    omega
  · have top : min ((totalXp amounts).toNat / 100 + 1) 10 = 10 := by omega
    rw [top]
    constructor
    · rintro rfl _
      refine ⟨front, short, ?_⟩
      unfold rank at attained
      omega
    · intro reached
      obtain ⟨other, short', nine⟩ := reached (Nat.not_lt.mp small)
      have ten : rank (totalXp other) = 10 := min_eq_right (by omega)
      have most : rank (totalXp front) ≤ 10 := min_le_right _ _
      have least := bound other short'
      rw [← attained, ten] at *
      exact Nat.le_antisymm most least

/-! ## Overflow -/

theorem gains_cons {msg : ActorMessage} (other : msg ≠ .Shutdown) (rest : List ActorMessage) :
    gains (msg :: rest) = (gained msg).toList ++ gains rest := by
  rw [gains, handled_cons other, List.filterMap_cons]
  cases gained msg <;> rfl

theorem levelsFit_iff (fits : levelFits actor.state.xp = true) (messages : List ActorMessage) :
    levelsFit actor messages = true ↔
      ∀ front, front <+: gains messages → levelFits (front.foldl saturatingAdd32 actor.state.xp) = true := by
  induction messages generalizing actor with
  | nil =>
      refine iff_of_true rfl fun front short => ?_
      rw [List.prefix_nil.mp short]
      exact fits
  | cons msg rest ih =>
      by_cases ended : msg = .Shutdown
      · subst ended
        refine iff_of_true rfl fun front short => ?_
        rw [gains, handled_shutdown] at short
        rw [List.prefix_nil.mp short]
        exact fits
      · have xp := congrArg Merit.xp (meritOf_handleMessage actor msg)
        rw [gains_cons ended, levelsFit, decide_eq_false ended, Bool.false_or, Bool.and_eq_true]
        cases gain : gained msg with
        | none =>
            rw [gain] at xp
            change (actor.handleMessage msg).1.state.xp = actor.state.xp at xp
            simp only [true_and, Option.toList_none, List.nil_append]
            rw [ih (xp ▸ fits), xp]
        | some amount =>
            rw [gain] at xp
            change (actor.handleMessage msg).1.state.xp = saturatingAdd32 actor.state.xp amount at xp
            simp only [Option.toList_some, List.singleton_append]
            constructor
            · rintro ⟨now, later⟩ front short
              rcases List.prefix_cons_iff.mp short with rfl | ⟨front, rfl, tail⟩
              · exact fits
              · rw [ih (xp ▸ now), xp] at later
                exact later front tail
            · intro all
              have now := all [amount] (List.prefix_cons_iff.mpr (.inr ⟨[], rfl, List.nil_prefix⟩))
              refine ⟨now, ?_⟩
              rw [ih (xp ▸ now), xp]
              exact fun front short => all (amount :: front) (List.prefix_cons_iff.mpr (.inr ⟨front, rfl, short⟩))

theorem forall_prefix_append {α : Type} {P : List α → Prop} {early late : List α} :
    (∀ front, front <+: early ++ late → P front) ↔
      (∀ front, front <+: early → P front) ∧ ∀ front, front <+: late → P (early ++ front) := by
  constructor
  · intro all
    refine ⟨fun front short => all front (short.trans (List.prefix_append _ _)), fun front short => all _ ?_⟩
    exact (List.prefix_append_right_inj early).mpr short
  · rintro ⟨first, second⟩ front ⟨rest, same⟩
    rcases List.append_eq_append_iff.mp same with ⟨middle, rfl, -⟩ | ⟨middle, rfl, rfl⟩
    · exact first front (List.prefix_append _ _)
    · exact second middle (List.prefix_append _ _)

theorem meritOf_born (inboxes : Inboxes) (spec : ActorSpec) : meritOf (born inboxes spec) = novice := rfl

theorem fits_iff (inboxes : Inboxes) (spec : ActorSpec) (drains : List (List ActorMessage)) :
    (∀ done next, done ++ [next] <+: drains → levelsFit (drainAll (born inboxes spec) done) next = true) ↔
      ∀ amounts, amounts <+: drains.flatMap gains → levelFits (totalXp amounts) = true := by
  induction drains using List.reverseRecOn with
  | nil =>
      refine iff_of_true (fun done next short => ?_) fun amounts short => ?_
      · simp at short
      · rw [List.prefix_nil.mp short]
        decide
  | append_singleton drains last ih =>
      have xp : (drainAll (born inboxes spec) drains).state.xp = totalXp (drains.flatMap gains) := by
        rw [← xp_earned, ← meritOf_born inboxes spec, ← meritOf_drainAll]
        rfl
      have parts : (∀ done next, done ++ [next] <+: drains ++ [last] →
            levelsFit (drainAll (born inboxes spec) done) next = true) ↔
          (∀ done next, done ++ [next] <+: drains → levelsFit (drainAll (born inboxes spec) done) next = true) ∧
            levelsFit (drainAll (born inboxes spec) drains) last = true := by
        constructor
        · intro all
          refine ⟨fun done next short => all done next (short.trans (List.prefix_append _ _)), ?_⟩
          exact all drains last List.prefix_rfl
        · rintro ⟨before, now⟩ done next short
          rcases List.prefix_concat_iff.mp short with same | earlier
          · obtain ⟨rfl, last⟩ := List.append_inj' same rfl
            rw [List.singleton_inj.mp last]
            exact now
          · exact before done next earlier
      rw [parts, ih, List.flatMap_append, List.flatMap_singleton, forall_prefix_append]
      refine and_congr_right fun before => ?_
      rw [levelsFit_iff (xp ▸ before _ List.prefix_rfl), xp]
      simp only [totalXp, List.foldl_append]

theorem level_follows_iff (inboxes : Inboxes) (spec : ActorSpec) (drains : List (List ActorMessage)) :
    LevelFollows (born inboxes spec) drains ↔ LevelsInByte drains := by
  have level (below : ∀ amounts, amounts <+: drains.flatMap gains → hundreds (totalXp amounts) ≠ 255)
      {done : List (List ActorMessage)} (short : done <+: drains) :
      Highest (done.flatMap gains) (drainAll (born inboxes spec) done).state.level.toNat := by
    have less : done.flatMap gains <+: drains.flatMap gains := by
      obtain ⟨rest, rfl⟩ := short
      rw [List.flatMap_append]
      exact List.prefix_append _ _
    have top := highest fun amounts early => below amounts (early.trans less)
    rw [← meritOf_born inboxes spec, ← meritOf_drainAll] at top
    exact top
  constructor
  · rintro ⟨right, fits⟩
    rw [fits_iff] at fits
    have below (amounts : List UInt32) (short : amounts <+: drains.flatMap gains) : hundreds (totalXp amounts) ≠ 255 :=
      (levelFits_iff _).mp (fits amounts short)
    exact ⟨below, fun done short => (level below short).right_iff.mp (right done short)⟩
  · rintro ⟨below, reached⟩
    refine ⟨fun done short => (level below short).right_iff.mpr (reached done short), ?_⟩
    rw [fits_iff]
    exact fun amounts short => (levelFits_iff _).mpr (below amounts short)

def squire : ActorSpec := ⟨⟨1⟩, "Squire", "eager", "A novice", .Mock, ⟨100, 500⟩, .Knight, .Empire⟩

/-- 256 hundreds are none for a byte. -/
theorem great_deed_unnoticed : ¬LevelFollows (born .empty squire) [[.GainXp 25600]] := by
  rintro ⟨right, -⟩
  have level := right [[.GainXp 25600]] List.prefix_rfl
  revert level
  decide

end LiveWorld.Proof.Runtime

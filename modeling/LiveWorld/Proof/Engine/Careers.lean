import LiveWorld.Proof.Engine.War

/-!
# Careers and deaths

Rewards are thirty points each, so no level is skipped and the byte that counts the hundreds does not overflow before
the last level is reached. Blows are below sixty, which is less than anybody has at birth.
-/

namespace LiveWorld.Proof.Engine
open HashTable Machine Spec Proof.Runtime
variable {cfg : WorldConfig} {c : Chronicle} {own : List ActorEffect} {actor : Actor}

/-! ## Levels -/

def Rewarded (_ : ActorSpec) (msg : ActorMessage) : Prop := ∀ amount, msg = .GainXp amount → amount = 30

structure Rising (own : List ActorEffect) (actor : Actor) : Prop where
  loyal : actor.state.faction = actor.spec.faction
  level : actor.state.level.toNat = min (actor.state.xp.toNat / 100 + 1) 10
  announced : own.filterMap levelReached = List.range' 2 (actor.state.level.toNat - 1)

theorem toNat_reward {xp : UInt32} (few : xp.toNat < 900) : (saturatingAdd32 xp 30).toNat = xp.toNat + 30 := by
  have thirty : (30 : UInt32).toNat = 30 := rfl
  unfold saturatingAdd32
  rw [thirty, if_pos (by omega), UInt32.toNat_add, thirty]
  omega

theorem toNat_nextLevel {xp : UInt32} (few : xp.toNat < 900) :
    (min ((saturatingAdd32 xp 30 / 100).toUInt8 + 1) 10 : UInt8).toNat = (xp.toNat + 30) / 100 + 1 := by
  have hundred : hundreds (saturatingAdd32 xp 30) = (xp.toNat + 30) / 100 := by
    rw [hundreds, toNat_reward few]
    omega
  rw [toNat_newLevel, rank, hundred]
  · omega
  · rw [hundred]
    omega

theorem rising_gain (rising : Rising own actor) : Rising (own ++ (actor.gainXp 30).2) (actor.gainXp 30).1 := by
  have level := rising.level
  by_cases few : actor.state.xp.toNat < 900
  · have xp := toNat_reward few
    have next := toNat_nextLevel few
    simp only [Actor.gainXp]
    split_ifs with higher
    · rw [gt_iff_lt, UInt8.lt_iff_toNat_lt, next] at higher
      refine ⟨rising.loyal, ?_, ?_⟩
      · change (min _ _ : UInt8).toNat = min ((saturatingAdd32 actor.state.xp 30).toNat / 100 + 1) 10
        rw [next, xp]
        omega
      · change _ = List.range' 2 ((min _ _ : UInt8).toNat - 1)
        have step : (actor.state.xp.toNat + 30) / 100 + 1 = actor.state.level.toNat + 1 := by omega
        rw [List.filterMap_append, rising.announced, next, step]
        change List.range' 2 (actor.state.level.toNat - 1) ++ [(min _ _ : UInt8).toNat] = _
        have positive : 1 ≤ actor.state.level.toNat := by omega
        rw [next, step, Nat.add_sub_cancel]
        conv_rhs => rw [← Nat.sub_add_cancel positive, List.range'_concat]
        rw [show 2 + 1 * (actor.state.level.toNat - 1) = actor.state.level.toNat + 1 by omega]
    · rw [gt_iff_lt, UInt8.lt_iff_toNat_lt, next] at higher
      refine ⟨rising.loyal, ?_, ?_⟩
      · change actor.state.level.toNat = min ((saturatingAdd32 actor.state.xp 30).toNat / 100 + 1) 10
        rw [xp]
        omega
      · rw [List.append_nil]
        exact rising.announced
  · have top : actor.state.level.toNat = 10 := by omega
    have still : ¬min ((saturatingAdd32 actor.state.xp 30 / 100).toUInt8 + 1) 10 > actor.state.level := by
      have most := newLevel_le ((saturatingAdd32 actor.state.xp 30 / 100).toUInt8 + 1)
      rw [UInt8.le_iff_toNat_le] at most
      rw [gt_iff_lt, UInt8.lt_iff_toNat_lt, top, Nat.not_lt]
      exact most
    have more := UInt32.le_iff_toNat_le.mp (saturatingAdd32_le actor.state.xp 30)
    simp only [Actor.gainXp, if_neg still]
    refine ⟨rising.loyal, ?_, ?_⟩
    · change actor.state.level.toNat = min ((saturatingAdd32 actor.state.xp 30).toNat / 100 + 1) 10
      omega
    · rw [List.append_nil]
      exact rising.announced

theorem rising_handle {msg : ActorMessage} (rewarded : Rewarded actor.spec msg) (rising : Rising own actor) :
    Rising (own ++ (actor.handleMessage msg).2) (actor.handleMessage msg).1 := by
  have announced (effect : ActorEffect) (silent : levelReached effect = none) :
      (own ++ [effect]).filterMap levelReached = List.range' 2 (actor.state.level.toNat - 1) := by
    rw [List.filterMap_append, List.filterMap_cons_none silent, rising.announced]
    exact List.append_nil _
  cases msg with
  | GainXp amount =>
      obtain rfl := rewarded amount rfl
      exact rising_gain rising
  | TakeDamage amount fromName =>
      simp only [Actor.handleMessage, Actor.takeDamage]
      split_ifs
      · exact ⟨rising.loyal, rising.level, announced _ rfl⟩
      · exact ⟨rising.loyal, rising.level, announced _ rfl⟩
  | Shutdown =>
      refine ⟨rising.loyal, rising.level, ?_⟩
      rw [Actor.handleMessage, List.append_nil]
      exact rising.announced
  | Move | Speak | Interact => exact ⟨rising.loyal, rising.level, announced _ rfl⟩

theorem careers : Regime Rewarded Rising fun _ => True where
  born _ _ := by
    refine ⟨rfl, ?_, rfl⟩
    change (1 : UInt8).toNat = min ((0 : UInt32).toNat / 100 + 1) 10
    decide
  ticked _ _ _ given := ⟨given.loyal, given.level, given.announced⟩
  handled _ _ _ := rising_handle
  moved _ _ _ _ _ _ given := ⟨given.loyal, given.level, given.announced⟩
  states _ _ _ := trivial
  loyal _ _ given := given.loyal
  civil _ msg civil amount same := by
    subst same
    exact civil.elim
  blows _ _ _ _ _ _ _ amount same := by cases same
  rewards _ _ _ _ _ _ _ amount same := by
    cases same
    rfl

def isGain : ActorMessage → Bool
  | .GainXp _ => true
  | _ => false

theorem xp_handle {msg : ActorMessage} (rewarded : Rewarded actor.spec msg) :
    (actor.handleMessage msg).1.state.xp.toNat ≤ actor.state.xp.toNat + if isGain msg then 30 else 0 := by
  have merit := congrArg Merit.xp (meritOf_handleMessage actor msg)
  change (actor.handleMessage msg).1.state.xp = _ at merit
  rw [merit]
  cases msg with
  | GainXp amount =>
      obtain rfl := rewarded amount rfl
      change (saturatingAdd32 actor.state.xp 30).toNat ≤ actor.state.xp.toNat + 30
      have thirty : (30 : UInt32).toNat = 30 := rfl
      unfold saturatingAdd32
      split_ifs with fits
      · rw [UInt32.toNat_add, thirty]
        exact Nat.mod_le _ _
      · change 4294967295 ≤ _
        omega
  | _ => exact Nat.le_refl _

theorem rewards_priced : Priced Rewarded isGain attackBy (fun _ actor => actor.state.xp.toNat) 30 where
  born _ _ := rfl
  ticked _ _ _ := rfl
  moved _ _ _ _ := rfl
  handled _ _ _ := xp_handle
  civil msg civil := by
    cases msg with
    | GainXp => exact civil.elim
    | _ => rfl
  struck _ _ _ _ struck := by cases struck
  rewarded source _ _ := by simp [attackBy]
  one _ _ struck := by cases struck

theorem careers_follow_attacks (cfg : WorldConfig) (c : Chronicle) (reachable : ChronicleReachable cfg c) (id : ActorId)
    (actor : Actor) (found : c.world.engine.runtime.actors.lookup id = some actor) : Career id actor c.log := by
  obtain ⟨governs, -⟩ := careers.reachable reachable
  have rising := governs.holds id actor found
  have balance := rewards_priced.reachable careers reachable id actor found
  exact ⟨rising.level, rising.announced, (Nat.le_add_right _ _).trans balance⟩

theorem career_of_the_duellist :
    ∃ actor, (duel 8).world.engine.runtime.actors.lookup ⟨1⟩ = some actor ∧ actor.state.xp = 240 ∧
      Career ⟨1⟩ actor (duel 8).log := by
  have found : ((duel 8).world.engine.runtime.actors.lookup ⟨1⟩).map (fun actor => actor.state.xp) = some 240 := by
    decide +kernel
  obtain ⟨actor, there, xp⟩ := Option.map_eq_some_iff.mp found
  exact ⟨actor, there, xp,
    careers_follow_attacks .default (duel 8) (duel_reachable (by decide +kernel)) ⟨1⟩ actor there⟩

/-! ## Deaths -/

def Bearable (_ : ActorSpec) (msg : ActorMessage) : Prop := ∀ amount name, msg = .TakeDamage amount name → amount.toNat < 60

def Seasoned (s : ActorState) : Prop := 1 ≤ s.level ∧ s.level ≤ 10

/-- Every death comes right after a wound. -/
def Weakened (id : ActorId) (wounds : List ActorEffect) : Prop :=
  ∀ before name killer after, wounds = before ++ .Died id name killer :: after →
    ∃ hp, before.getLast? = some (.Damaged id hp)

structure Mortal (own : List ActorEffect) (actor : Actor) : Prop where
  loyal : actor.state.faction = actor.spec.faction
  seasoned : Seasoned actor.state
  sturdy : 60 ≤ actor.state.maxHp.toNat
  weakened : Weakened actor.spec.id (own.filter isReport)
  hurt : actor.state.hp = actor.state.maxHp ∨ ∃ hp, (own.filter isReport).getLast? = some (.Damaged actor.spec.id hp)

theorem concat_eq_append_cons {α : Type} {front before after : List α} {last x : α}
    (same : front ++ [last] = before ++ x :: after) :
    (front = before ∧ last = x) ∨ ∃ rest, front = before ++ x :: rest := by
  induction after using List.reverseRecOn with
  | nil =>
      obtain ⟨one, two⟩ := List.append_inj' same rfl
      exact .inl ⟨one, (List.cons.inj two).1⟩
  | append_singleton rest y _ =>
      rw [← List.cons_append, ← List.append_assoc] at same
      exact .inr ⟨rest, (List.append_inj' same rfl).1⟩

theorem weakened_wound {id : ActorId} {wounds : List ActorEffect} (weakened : Weakened id wounds) (hp : UInt8) :
    Weakened id (wounds ++ [.Damaged id hp]) := by
  intro before name killer after same
  rcases concat_eq_append_cons same with ⟨-, other⟩ | ⟨rest, shorter⟩
  · cases other
  · exact weakened before name killer rest shorter

theorem weakened_death {id : ActorId} {wounds : List ActorEffect} {hp : UInt8} (weakened : Weakened id wounds)
    (wounded : wounds.getLast? = some (.Damaged id hp)) (name killer : String) :
    Weakened id (wounds ++ [.Died id name killer]) := by
  intro before other killer' after same
  rcases concat_eq_append_cons same with ⟨rfl, -⟩ | ⟨rest, shorter⟩
  · exact ⟨hp, wounded⟩
  · exact weakened before other killer' rest shorter

theorem mortal_strike (mortal : Mortal own actor) {amount : UInt8} (bearable : amount.toNat < 60) (fromName : String) :
    Mortal (own ++ (actor.takeDamage amount fromName).2) (actor.takeDamage amount fromName).1 := by
  simp only [Actor.takeDamage]
  split_ifs with dead
  · have weak : actor.state.hp ≠ actor.state.maxHp := by
      intro full
      have left := congrArg UInt8.toNat dead
      rw [saturatingSub8_toNat, full] at left
      have := mortal.sturdy
      change _ = 0 at left
      omega
    obtain ⟨hp, wounded⟩ := mortal.hurt.resolve_left weak
    refine ⟨mortal.loyal, mortal.seasoned, mortal.sturdy, ?_, .inl rfl⟩
    rw [List.filter_append]
    exact weakened_death mortal.weakened wounded actor.spec.name fromName
  · refine ⟨mortal.loyal, mortal.seasoned, mortal.sturdy, ?_, .inr ⟨saturatingSub8 actor.state.hp amount, ?_⟩⟩
    · rw [List.filter_append]
      exact weakened_wound mortal.weakened _
    · rw [List.filter_append]
      exact List.getLast?_concat

theorem seasoned_handle (seasoned : Seasoned actor.state) (msg : ActorMessage) :
    Seasoned (actor.handleMessage msg).1.state := by
  have merit := congrArg Merit.level (meritOf_handleMessage actor msg)
  change (actor.handleMessage msg).1.state.level = _ at merit
  unfold Seasoned
  rw [merit]
  cases gained msg with
  | none => exact seasoned
  | some amount => exact earn_level (s := meritOf actor) seasoned amount

theorem mortal_handle {msg : ActorMessage} (bearable : Bearable actor.spec msg) (mortal : Mortal own actor) :
    Mortal (own ++ (actor.handleMessage msg).2) (actor.handleMessage msg).1 := by
  have unhurt {later : Actor} {effects : List ActorEffect} (silent : effects.filter isReport = [])
      (spec : later.spec = actor.spec) (faction : later.state.faction = actor.state.faction)
      (seasoned : Seasoned later.state) (hp : later.state.hp = actor.state.hp)
      (maxHp : later.state.maxHp = actor.state.maxHp) : Mortal (own ++ effects) later := by
    have same : (own ++ effects).filter isReport = own.filter isReport := by
      rw [List.filter_append, silent, List.append_nil]
    refine ⟨?_, seasoned, ?_, ?_, ?_⟩
    · rw [faction, spec]
      exact mortal.loyal
    · rw [maxHp]
      exact mortal.sturdy
    · rw [same, spec]
      exact mortal.weakened
    · rw [same, spec, hp, maxHp]
      exact mortal.hurt
  have seasoned := seasoned_handle mortal.seasoned msg
  cases msg with
  | TakeDamage amount fromName => exact mortal_strike mortal (bearable amount fromName rfl) fromName
  | GainXp amount =>
      revert seasoned
      simp only [Actor.handleMessage, Actor.gainXp]
      split_ifs
      · exact fun seasoned => unhurt rfl rfl rfl seasoned rfl rfl
      · exact fun seasoned => unhurt rfl rfl rfl seasoned rfl rfl
  | Move | Speak | Interact | Shutdown => exact unhurt rfl rfl rfl seasoned rfl rfl

theorem mul_seasoned {level factor : UInt8} (most : level ≤ 10) (small : factor.toNat ≤ 5) :
    (saturatingMul8 level factor).toNat = level.toNat * factor.toNat := by
  rw [UInt8.le_iff_toNat_le] at most
  change level.toNat ≤ 10 at most
  have product : level.toNat * factor.toNat ≤ 50 := Nat.mul_le_mul most small
  unfold saturatingMul8
  rw [if_pos (by omega), UInt8.toNat_mul]
  omega

theorem attackDamage_lt {attacker target : ActorState} (one : Seasoned attacker) (two : Seasoned target) :
    (WorldEngine.attackDamage attacker.level target.level).toNat < 60 := by
  have strong : (saturatingMul8 attacker.level 5).toNat = attacker.level.toNat * 5 := mul_seasoned one.2 (by decide)
  have shield : (saturatingMul8 target.level 2).toNat = target.level.toNat * 2 := mul_seasoned two.2 (by decide)
  have most := UInt8.le_iff_toNat_le.mp one.2
  have least := UInt8.le_iff_toNat_le.mp two.1
  change attacker.level.toNat ≤ 10 at most
  change 1 ≤ target.level.toNat at least
  have ten : (10 : UInt8).toNat = 10 := rfl
  have power : (saturatingAdd8 10 (saturatingMul8 attacker.level 5)).toNat = 10 + attacker.level.toNat * 5 := by
    unfold saturatingAdd8
    rw [strong, ten, if_pos (by omega), UInt8.toNat_add, strong, ten]
    omega
  change (if _ ≤ (1 : UInt8) then (1 : UInt8) else _).toNat < 60
  split_ifs
  · decide
  · rw [saturatingSub8_toNat, power, shield]
    omega

theorem born_sturdy (rt : ActorRuntime) (spec : ActorSpec) : 60 ≤ (newborn rt spec).state.maxHp.toNat := by
  change 60 ≤ (Actor.hitPoints spec.role).2.toNat
  cases spec.role <;> decide

theorem deaths : Regime Bearable Mortal Seasoned where
  born rt spec := by
    refine ⟨rfl, ?_, born_sturdy rt spec, fun before name killer after same => ?_, .inl (born_unscathed rt spec).hp⟩
    · change (1 : UInt8) ≤ 1 ∧ (1 : UInt8) ≤ 10
      decide
    · exact absurd same.symm (List.append_ne_nil_of_right_ne_nil before (List.cons_ne_nil _ after))
  ticked _ _ _ given := ⟨given.loyal, given.seasoned, given.sturdy, given.weakened, given.hurt⟩
  handled _ _ _ := mortal_handle
  moved _ _ _ _ _ _ given := ⟨given.loyal, given.seasoned, given.sturdy, given.weakened, given.hurt⟩
  states _ _ given := given.seasoned
  loyal _ _ given := given.loyal
  civil _ msg civil amount name same := by
    subst same
    exact civil.elim
  blows _ _ _ one two _ _ amount name same := by
    cases same
    exact attackDamage_lt one two
  rewards _ _ _ _ _ _ _ amount name same := by cases same

def isBlow : ActorMessage → Bool
  | .TakeDamage _ _ => true
  | _ => false

theorem wounds_handle (actor : Actor) (msg : ActorMessage) :
    ((own ++ (actor.handleMessage msg).2).filter isReport).length ≤
      (own.filter isReport).length + if isBlow msg then 1 else 0 := by
  rw [List.filter_append, List.length_append]
  apply Nat.add_le_add_left
  cases msg with
  | TakeDamage amount fromName =>
      change _ ≤ 1
      simp only [Actor.handleMessage, Actor.takeDamage]
      split_ifs <;> exact Nat.le_refl _
  | GainXp amount =>
      change _ ≤ 0
      simp only [Actor.handleMessage, Actor.gainXp]
      split_ifs <;> exact Nat.le_refl _
  | _ => exact Nat.le_refl _

theorem blows_priced : Priced Bearable isBlow attackOn (fun own _ => (own.filter isReport).length) 1 where
  born _ _ := rfl
  ticked _ _ _ := rfl
  moved _ _ _ _ := rfl
  handled _ actor msg _ := wounds_handle actor msg
  civil msg civil := by
    cases msg with
    | TakeDamage => exact civil.elim
    | _ => rfl
  struck _ target _ _ _ := by simp [attackOn]
  rewarded _ _ rewarded := by cases rewarded
  one _ _ _ := rfl

theorem nobody_dies_unhurt (cfg : WorldConfig) (c : Chronicle) (reachable : ChronicleReachable cfg c) (id : ActorId) :
    FairDeaths id c.log := by
  have nothing : ∀ id, Weakened id (([] : List ActorEffect).filter isReport) := by
    intro id before name killer after same
    exact absurd same.symm (List.append_ne_nil_of_right_ne_nil before (List.cons_ne_nil _ after))
  constructor
  · exact deaths.reports (R := fun id own => Weakened id (own.filter isReport)) nothing
      (fun _ _ mortal => mortal.weakened) reachable id
  · have priced := blows_priced.reports deaths rfl reachable id
    rw [Nat.one_mul] at priced
    exact priced

theorem duel_ends_after_wounds :
    .Died ⟨2⟩ "Villager" "Villager" ∈ woundsOf ⟨2⟩ (duel 8).log ∧ FairDeaths ⟨2⟩ (duel 8).log :=
  ⟨by decide +kernel, nobody_dies_unhurt .default (duel 8) (duel_reachable (by decide +kernel)) ⟨2⟩⟩

end LiveWorld.Proof.Engine

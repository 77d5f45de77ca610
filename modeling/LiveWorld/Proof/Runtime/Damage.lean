import LiveWorld.Proof.Runtime.Vitals

/-!
# The accounts of damage

What an actor has left and what it has suffered since birth or its last death add up to its full hit points.
-/

namespace LiveWorld.Proof.Runtime
open Machine Spec
variable {actor : Actor} {messages : List ActorMessage}

/-! ## Hit points -/

theorem dead_iff {maxHp hp : UInt8} {total : Nat} (balance : hp.toNat + total = maxHp.toNat) (amount : UInt8) :
    saturatingSub8 hp amount = 0 ↔ maxHp.toNat ≤ total + amount.toNat := by
  rw [← UInt8.toNat_inj, saturatingSub8_toNat]
  change _ = 0 ↔ _
  omega

theorem hp_suffered {maxHp hp : UInt8} {total : Nat} (balance : hp.toNat + total = maxHp.toNat) (alive : 1 ≤ hp.toNat)
    (messages : List ActorMessage) :
    (hpAfter maxHp hp messages).toNat + suffered maxHp.toNat total messages = maxHp.toNat ∧
      1 ≤ (hpAfter maxHp hp messages).toNat := by
  induction messages generalizing hp total with
  | nil => exact ⟨balance, alive⟩
  | cons msg rest ih =>
      cases msg with
      | TakeDamage amount fromName =>
          have left := saturatingSub8_toNat hp amount
          simp only [hpAfter, suffered]
          by_cases dead : maxHp.toNat ≤ total + amount.toNat
          · rw [if_pos dead, if_pos ((dead_iff balance amount).mpr dead)]
            exact ih (Nat.add_zero _) (by omega)
          · rw [if_neg dead, if_neg (mt (dead_iff balance amount).mp dead)]
            exact ih (by omega) (by omega)
      | _ => exact ih balance alive

theorem born_hp (inboxes : Inboxes) (spec : ActorSpec) :
    (born inboxes spec).state.hp = (born inboxes spec).state.maxHp ∧ 1 ≤ (born inboxes spec).state.hp.toNat := by
  have roles (role : ActorRole) : (Actor.hitPoints role).1 = (Actor.hitPoints role).2 ∧
      1 ≤ (Actor.hitPoints role).1.toNat := by cases role <;> decide
  exact roles spec.role

/-! ## Reports -/

theorem reports_cons (spec : ActorSpec) (maxHp total : Nat) (msg : ActorMessage) (rest : List ActorMessage) :
    reports spec maxHp total (msg :: rest) =
      reports spec maxHp total [msg] ++ reports spec maxHp (suffered maxHp total [msg]) rest := by
  cases msg with
  | TakeDamage amount fromName =>
      simp only [reports, suffered]
      split_ifs <;> rfl
  | _ => rfl

theorem handleMessage_reports {total : Nat} (balance : actor.state.hp.toNat + total = actor.state.maxHp.toNat)
    (msg : ActorMessage) :
    (actor.handleMessage msg).2.filter isReport = reports actor.spec actor.state.maxHp.toNat total [msg] := by
  cases msg with
  | TakeDamage amount fromName =>
      have left := saturatingSub8_toNat actor.state.hp amount
      have bound := actor.state.maxHp.toNat_lt
      simp only [Actor.handleMessage, Actor.takeDamage, reports]
      by_cases dead : actor.state.maxHp.toNat ≤ total + amount.toNat
      · rw [if_pos dead, if_pos ((dead_iff balance amount).mpr dead)]
        rfl
      · have same : saturatingSub8 actor.state.hp amount =
            UInt8.ofNat (actor.state.maxHp.toNat - (total + amount.toNat)) := by
          rw [← UInt8.toNat_inj, left, UInt8.toNat_ofNat', Nat.mod_eq_of_lt (by omega)]
          omega
        rw [if_neg dead, if_neg (mt (dead_iff balance amount).mp dead), ← same]
        rfl
  | GainXp amount =>
      simp only [Actor.handleMessage, Actor.gainXp]
      split_ifs <;> rfl
  | _ => rfl

theorem drainInbox_reports {total : Nat} (balance : actor.state.hp.toNat + total = actor.state.maxHp.toNat)
    (alive : 1 ≤ actor.state.hp.toNat) (messages : List ActorMessage) :
    (actor.drainInbox messages).2.1.filter isReport =
      reports actor.spec actor.state.maxHp.toNat total (handled messages) := by
  induction messages generalizing actor total with
  | nil => rfl
  | cons msg rest ih =>
      by_cases ended : msg = .Shutdown
      · subst ended
        rw [handled_shutdown]
        rfl
      · have same := (handleMessage_same actor msg).1
        have next := hp_suffered balance alive [msg]
        rw [← handleAll_hp actor [msg]] at next
        change (actor.handleMessage msg).1.state.hp.toNat + _ = _ ∧ 1 ≤ (actor.handleMessage msg).1.state.hp.toNat at next
        rw [← same.maxHp] at next
        have later := ih next.1 next.2
        rw [handled_cons ended, reports_cons]
        simp only [Actor.drainInbox, if_neg ended, List.filter_append]
        rw [handleMessage_reports balance, later, same.spec, same.maxHp]

/-! ## Any drains -/

theorem drainAll_same (actor : Actor) (drains : List (List ActorMessage)) : SameActor actor (drainAll actor drains) := by
  induction drains using List.reverseRecOn with
  | nil => exact .refl actor
  | append_singleton done next ih =>
      rw [drainAll_concat]
      exact ih.trans (drainInbox_same _ next).1

theorem newLevel_le (level : UInt8) : min level 10 ≤ 10 := by
  change (if level ≤ 10 then level else 10) ≤ 10
  split_ifs with low
  · exact low
  · exact UInt8.le_refl 10

theorem earn_level {s : Merit} (bounds : 1 ≤ s.level ∧ s.level ≤ 10) (amount : UInt32) :
    1 ≤ (earn s amount).level ∧ (earn s amount).level ≤ 10 := by
  have grows := (earn_le s amount).level
  refine ⟨UInt8.le_trans bounds.1 grows, ?_⟩
  simp only [earn]
  split_ifs
  · exact newLevel_le _
  · exact bounds.2

theorem level_earned (amounts : List UInt32) :
    1 ≤ (amounts.foldl earn novice).level ∧ (amounts.foldl earn novice).level ≤ 10 := by
  induction amounts using List.reverseRecOn with
  | nil => decide
  | append_singleton amounts amount ih =>
      rw [List.foldl_concat]
      exact earn_level ih amount

theorem balance_drainAll (inboxes : Inboxes) (spec : ActorSpec) (drains : List (List ActorMessage)) :
    (drainAll (born inboxes spec) drains).state.hp.toNat +
        suffered (born inboxes spec).state.maxHp.toNat 0 (drains.flatMap handled) =
          (born inboxes spec).state.maxHp.toNat ∧
      1 ≤ (drainAll (born inboxes spec) drains).state.hp.toNat := by
  obtain ⟨full, alive⟩ := born_hp inboxes spec
  rw [(sameVitals_drainAll (born inboxes spec) drains).hp, handleAll_hp]
  exact hp_suffered (congrArg UInt8.toNat full) alive _

theorem healthy_drainAll (inboxes : Inboxes) (spec : ActorSpec) (drains : List (List ActorMessage)) :
    Healthy (born inboxes spec) (drainAll (born inboxes spec) drains) (drains.flatMap handled) := by
  obtain ⟨balance, alive⟩ := balance_drainAll inboxes spec drains
  have maxHp := (drainAll_same (born inboxes spec) drains).maxHp
  have level := level_earned (drains.flatMap gains)
  rw [← meritOf_born inboxes spec, ← meritOf_drainAll] at level
  refine ⟨UInt8.le_iff_toNat_le.mpr alive, ?_, maxHp, balance, level⟩
  rw [UInt8.le_iff_toNat_le, maxHp]
  omega

theorem handled_mono {early late : List ActorMessage} (short : early <+: late) : handled early <+: handled late := by
  obtain ⟨rest, rfl⟩ := short
  unfold handled
  rw [List.takeWhile_append]
  split_ifs
  · exact (List.takeWhile_prefix _).trans (List.prefix_append _ _)
  · exact List.prefix_rfl

theorem damage_accounted (inboxes : Inboxes) (spec : ActorSpec) (done : List (List ActorMessage))
    (next : List ActorMessage) : Accounted (born inboxes spec) done next := by
  refine ⟨fun front _ => healthy_drainAll inboxes spec (done ++ [front]), ?_, fun early late short _ => ?_⟩
  · have same := drainAll_same (born inboxes spec) done
    obtain ⟨balance, alive⟩ := balance_drainAll inboxes spec done
    rw [← same.maxHp, ← same.spec] at *
    exact drainInbox_reports balance alive next
  · -- what is drained later only adds gains
    obtain ⟨rest, more⟩ : gains early <+: gains late := (handled_mono short).filterMap gained
    have earned : (done ++ [late]).flatMap gains = (done ++ [early]).flatMap gains ++ rest := by
      simp only [List.flatMap_append, List.flatMap_singleton, List.append_assoc, more]
    have grows := earned_le (((done ++ [early]).flatMap gains).foldl earn (meritOf (born inboxes spec))) rest
    rw [← List.foldl_append, ← earned, ← meritOf_drainAll, ← meritOf_drainAll] at grows
    exact ⟨grows.level, grows.xp⟩

end LiveWorld.Proof.Runtime

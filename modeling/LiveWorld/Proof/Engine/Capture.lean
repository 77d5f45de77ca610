import LiveWorld.Spec.Capture

/-!
# Points and wins

A win of a rival of the owner gives a point; a win of the owner or of nobody is passed over. So the points are those of
the last wins in the zone, apart from the wins that were passed over.
-/

namespace LiveWorld.Proof.Engine
open HashTable Spec
variable {engine : WorldEngine} {cfg : WorldConfig} {zone : ZoneId} {winner : Faction} {history : List Win}

/-! ## One win -/

/-- What one win does to the territory and to the points. -/
inductive Shifted (engine : WorldEngine) (zone : ZoneId) (winner : Faction) : WorldEngine → Prop
  | passed : winner = .Neutral ∨ (engine.territory.lookup zone).getD .Neutral = winner →
      Shifted engine zone winner engine
  | captured {after : WorldEngine} {points : UInt8} : winner ≠ .Neutral →
      (engine.territory.lookup zone).getD .Neutral ≠ winner → engine.zonePressure.lookup zone = some (winner, points) →
      5 ≤ points + 1 → after.territory = engine.territory.insert zone winner →
      after.zonePressure = engine.zonePressure.erase zone → Shifted engine zone winner after
  | pushed {after : WorldEngine} {points : UInt8} : winner ≠ .Neutral →
      (engine.territory.lookup zone).getD .Neutral ≠ winner → engine.zonePressure.lookup zone = some (winner, points) →
      ¬5 ≤ points + 1 → after.territory = engine.territory →
      after.zonePressure = engine.zonePressure.insert zone (winner, points + 1) → Shifted engine zone winner after
  | started {after : WorldEngine} : winner ≠ .Neutral → (engine.territory.lookup zone).getD .Neutral ≠ winner →
      (∀ points, engine.zonePressure.lookup zone ≠ some (winner, points)) → after.territory = engine.territory →
      after.zonePressure = engine.zonePressure.insert zone (winner, 1) → Shifted engine zone winner after

theorem shifted (engine : WorldEngine) (zone : ZoneId) (winner : Faction) :
    Shifted engine zone winner (engine.shiftTerritory zone winner) := by
  unfold WorldEngine.shiftTerritory
  split_ifs with neutral owned
  · exact .passed (.inl neutral)
  · exact .passed (.inr owned)
  · cases found : engine.zonePressure.lookup zone with
    | none =>
        simp only [Option.getD_none, if_true]
        rw [if_neg (by decide)]
        exact .started neutral owned (fun points same => by cases found.symm.trans same) rfl rfl
    | some entry =>
        obtain ⟨rival, points⟩ := entry
        simp only [Option.getD_some]
        split_ifs with mine enough
        · subst mine
          exact .captured neutral owned found enough rfl rfl
        · subst mine
          exact .pushed neutral owned found enough rfl rfl
        · refine .started neutral owned (fun other same => mine ?_) rfl rfl
          cases found.symm.trans same
          rfl

/-! ## The points of a zone -/

/-- `wins` are the wins in `zone` so far. -/
structure Tallied (zone : ZoneId) (wins : List Faction) (engine : WorldEngine) : Prop where
  owned : ∃ owner, engine.territory.lookup zone = some owner
  rival : ∀ faction points, engine.zonePressure.lookup zone = some (faction, points) →
    faction ≠ .Neutral ∧ engine.territory.lookup zone ≠ some faction ∧ points.toNat ≤ 4
  streak : ∀ faction count, faction ≠ .Neutral → engine.territory.lookup zone ≠ some faction → 0 < count →
    List.replicate count faction <:+ wins →
    ∃ points, engine.zonePressure.lookup zone = some (faction, points) ∧ count ≤ points.toNat

theorem owner_iff (owned : ∃ owner, engine.territory.lookup zone = some owner) :
    (engine.territory.lookup zone).getD .Neutral = winner ↔ engine.territory.lookup zone = some winner := by
  obtain ⟨owner, found⟩ := owned
  rw [found, Option.getD_some, Option.some.injEq]

theorem toNat_point {points : UInt8} (few : points.toNat ≤ 4) : (points + 1).toNat = points.toNat + 1 := by
  rw [UInt8.toNat_add]
  change (points.toNat + 1) % 256 = _
  omega

theorem five_le_iff {points : UInt8} (few : points.toNat ≤ 4) : 5 ≤ points + 1 ↔ points = 4 := by
  rw [UInt8.le_iff_toNat_le, toNat_point few, ← UInt8.toNat_inj]
  change 5 ≤ points.toNat + 1 ↔ points.toNat = 4
  omega

theorem suffix_concat {α : Type} {a b : α} {count : Nat} {l : List α} :
    List.replicate (count + 1) a <:+ l ++ [b] ↔ a = b ∧ List.replicate count a <:+ l := by
  rw [List.replicate_succ', List.suffix_concat_iff]
  simp only [List.append_eq_nil_iff, List.cons_ne_nil, and_false, false_or]
  constructor
  · rintro ⟨t, same, suffix⟩
    obtain ⟨rfl, last⟩ := List.append_inj' same rfl
    exact ⟨List.singleton_inj.mp last, suffix⟩
  · rintro ⟨rfl, suffix⟩
    exact ⟨_, rfl, suffix⟩

theorem tallied_new (cfg : WorldConfig) (zone : ZoneId) : Tallied zone [] (WorldEngine.new cfg) := by
  refine ⟨?_, fun faction points found => ?_, fun faction count _ _ positive suffix => ?_⟩
  · cases zone <;> exact ⟨_, rfl⟩
  · cases found
  · have none := List.suffix_nil.mp suffix
    rw [List.replicate_eq_nil_iff] at none
    omega

theorem Tallied.elsewhere {wins : List Faction} (inv : Tallied zone wins engine) {other : ZoneId} (differ : zone ≠ other)
    (winner : Faction) : Tallied zone wins (engine.shiftTerritory other winner) := by
  have frame : (engine.shiftTerritory other winner).territory.lookup zone = engine.territory.lookup zone ∧
      (engine.shiftTerritory other winner).zonePressure.lookup zone = engine.zonePressure.lookup zone := by
    have moved := shifted engine other winner
    generalize engine.shiftTerritory other winner = after at moved
    cases moved with
    | passed => exact ⟨rfl, rfl⟩
    | captured _ _ _ _ territory pressure =>
        rw [territory, pressure]
        exact ⟨AList.lookup_insert_ne differ, AList.lookup_erase_ne differ⟩
    | pushed _ _ _ _ territory pressure | started _ _ _ territory pressure =>
        rw [territory, pressure]
        exact ⟨rfl, AList.lookup_insert_ne differ⟩
  refine ⟨?_, ?_, ?_⟩
  · rw [frame.1]
    exact inv.owned
  · rw [frame.1, frame.2]
    exact inv.rival
  · rw [frame.1, frame.2]
    exact inv.streak

theorem Tallied.here {wins : List Faction} (inv : Tallied zone wins engine) (winner : Faction) :
    Tallied zone (wins ++ [winner]) (engine.shiftTerritory zone winner) := by
  -- a streak of `wins ++ [winner]` is one of `winner`
  have streaks {faction : Faction} {count : Nat} (positive : 0 < count)
      (suffix : List.replicate count faction <:+ wins ++ [winner]) :
      faction = winner ∧ List.replicate (count - 1) faction <:+ wins := by
    obtain ⟨count, rfl⟩ := Nat.exists_eq_add_of_lt positive
    rw [Nat.zero_add] at suffix ⊢
    exact suffix_concat.mp suffix
  have moved := shifted engine zone winner
  generalize engine.shiftTerritory zone winner = after at moved
  cases moved with
  | passed reason =>
      refine ⟨inv.owned, inv.rival, fun faction count named unowned positive suffix => ?_⟩
      obtain ⟨rfl, -⟩ := streaks positive suffix
      rcases reason with neutral | owned
      · exact absurd neutral named
      · exact absurd ((owner_iff inv.owned).mp owned) unowned
  | captured named unowned found enough territory pressure =>
      have owner : after.territory.lookup zone = some winner := by rw [territory, AList.lookup_insert]
      have nothing : after.zonePressure.lookup zone = none := by rw [pressure, AList.lookup_erase]
      refine ⟨⟨winner, owner⟩, fun faction points there => ?_, fun faction count _ away positive suffix => ?_⟩
      · cases nothing.symm.trans there
      · obtain ⟨rfl, -⟩ := streaks positive suffix
        exact absurd owner away
  | @pushed _ points named unowned found few territory pressure =>
      obtain ⟨-, -, bound⟩ := inv.rival winner points found
      have entry : after.zonePressure.lookup zone = some (winner, points + 1) := by rw [pressure, AList.lookup_insert]
      have next := toNat_point bound
      rw [UInt8.le_iff_toNat_le, next, show (5 : UInt8).toNat = 5 from rfl] at few
      refine ⟨by rw [territory]; exact inv.owned, fun faction count there => ?_,
        fun faction count named' away positive suffix => ?_⟩
      · cases entry.symm.trans there
        rw [territory]
        exact ⟨named, fun owner => unowned ((owner_iff inv.owned).mpr owner), by omega⟩
      · obtain ⟨rfl, before⟩ := streaks positive suffix
        refine ⟨points + 1, entry, ?_⟩
        rcases Nat.eq_zero_or_pos (count - 1) with one | more
        · omega
        · rw [territory] at away
          obtain ⟨held, there, enough⟩ := inv.streak faction (count - 1) named' away more before
          cases found.symm.trans there
          omega
  | started named unowned fresh territory pressure =>
      have entry : after.zonePressure.lookup zone = some (winner, 1) := by rw [pressure, AList.lookup_insert]
      refine ⟨by rw [territory]; exact inv.owned, fun faction count there => ?_,
        fun faction count named' away positive suffix => ?_⟩
      · cases entry.symm.trans there
        rw [territory]
        exact ⟨named, fun owner => unowned ((owner_iff inv.owned).mpr owner), by decide⟩
      · obtain ⟨rfl, before⟩ := streaks positive suffix
        refine ⟨1, entry, ?_⟩
        rcases Nat.eq_zero_or_pos (count - 1) with one | more
        · change count ≤ 1
          omega
        · rw [territory] at away
          obtain ⟨held, there, -⟩ := inv.streak faction (count - 1) named' away more before
          exact absurd there (fresh held)

/-! ## A whole history -/

theorem winners_here (zone : ZoneId) (winner : Faction) (history : List Win) :
    winners zone (history ++ [(zone, winner)]) = winners zone history ++ [winner] := by
  simp [winners]

theorem winners_elsewhere {other : ZoneId} (differ : zone ≠ other) (winner : Faction) (history : List Win) :
    winners zone (history ++ [(other, winner)]) = winners zone history := by
  simp [winners, differ.symm]

theorem afterWins_concat (cfg : WorldConfig) (history : List Win) (win : Win) :
    afterWins cfg (history ++ [win]) = (afterWins cfg history).shiftTerritory win.1 win.2 := by
  rw [afterWins, List.foldl_append]
  rfl

theorem tallied_afterWins (cfg : WorldConfig) (zone : ZoneId) (history : List Win) :
    Tallied zone (winners zone history) (afterWins cfg history) := by
  induction history using List.reverseRecOn with
  | nil => exact tallied_new cfg zone
  | append_singleton history win ih =>
      obtain ⟨other, winner⟩ := win
      rw [afterWins_concat]
      by_cases same : zone = other
      · subst same
        rw [winners_here]
        exact ih.here winner
      · rw [winners_elsewhere same]
        exact ih.elsewhere same winner

/-- The fifth point, and nothing else, makes the zone change hands. -/
theorem Tallied.changesOwner_iff {wins : List Faction} (inv : Tallied zone wins engine) :
    ChangesOwner engine zone winner ↔ winner ≠ .Neutral ∧ engine.territory.lookup zone ≠ some winner ∧
      engine.zonePressure.lookup zone = some (winner, 4) := by
  unfold ChangesOwner
  have moved := shifted engine zone winner
  generalize engine.shiftTerritory zone winner = after at moved
  cases moved with
  | passed reason =>
      constructor
      · rintro ⟨away, owner⟩
        exact absurd owner away
      · rintro ⟨named, away, -⟩
        rcases reason with neutral | owned
        · exact absurd neutral named
        · exact absurd ((owner_iff inv.owned).mp owned) away
  | @captured _ points named unowned found enough territory pressure =>
      obtain ⟨-, away, bound⟩ := inv.rival winner points found
      have owner : after.territory.lookup zone = some winner := by rw [territory, AList.lookup_insert]
      rw [(five_le_iff bound).mp enough] at found
      exact ⟨fun _ => ⟨named, away, found⟩, fun _ => ⟨away, owner⟩⟩
  | @pushed _ points named unowned found few territory pressure =>
      obtain ⟨-, -, bound⟩ := inv.rival winner points found
      rw [territory]
      constructor
      · rintro ⟨away, owner⟩
        exact absurd owner away
      · rintro ⟨-, -, four⟩
        cases found.symm.trans four
        exact absurd ((five_le_iff bound).mpr rfl) few
  | started named unowned fresh territory pressure =>
      rw [territory]
      constructor
      · rintro ⟨away, owner⟩
        exact absurd owner away
      · rintro ⟨-, -, four⟩
        exact absurd four (fresh 4)

theorem fifth_in_a_row_iff (cfg : WorldConfig) (history : List Win) (zone : ZoneId) (winner : Faction) :
    FifthInARow cfg history zone winner ↔ Uninterrupted cfg history zone winner := by
  have inv := tallied_afterWins cfg zone history
  unfold FifthInARow Uninterrupted
  rw [inv.changesOwner_iff, suffix_concat]
  constructor
  · intro fifth four
    obtain ⟨named, away, -⟩ := inv.rival winner 4 four
    exact (fifth.mp ⟨named, away, four⟩).2.2.2
  · intro uninterrupted
    constructor
    · rintro ⟨named, away, four⟩
      exact ⟨named, away, rfl, uninterrupted four⟩
    · rintro ⟨named, away, -, streak⟩
      obtain ⟨points, there, enough⟩ := inv.streak winner 4 named away (by decide) streak
      obtain ⟨-, -, bound⟩ := inv.rival winner points there
      have four : points = 4 := UInt8.toNat_inj.mp (Nat.le_antisymm bound enough)
      exact ⟨named, away, four ▸ there⟩

-- the Alliance takes the forest with its fifth win, although the Empire, its owner, had won the one before
theorem forest_taken_after_defeat :
    ¬FifthInARow .default ((List.replicate 4 (.NorthForest, .Alliance)) ++ [(.NorthForest, .Empire)]) .NorthForest
      .Alliance := by
  rintro ⟨fifth, -⟩
  obtain ⟨-, -, streak⟩ := fifth ⟨by decide, by decide⟩
  revert streak
  decide

/-! ## Owners and points -/

theorem shiftTerritory_queues (engine : WorldEngine) (zone : ZoneId) (winner : Faction) :
    ((engine.shiftTerritory zone winner).territory = engine.territory ∧
        (engine.shiftTerritory zone winner).sessionQueues = engine.sessionQueues) ∨
      ((engine.territory.lookup zone).getD .Neutral ≠ winner ∧ winner ≠ .Neutral ∧
        (engine.shiftTerritory zone winner).territory = engine.territory.insert zone winner ∧
        (engine.shiftTerritory zone winner).zonePressure = engine.zonePressure.erase zone ∧
        (engine.shiftTerritory zone winner).sessionQueues =
          (engine.broadcastWorldEvent (captureText zone winner)).sessionQueues) := by
  unfold WorldEngine.shiftTerritory
  split_ifs with neutral owned
  · exact .inl ⟨rfl, rfl⟩
  · exact .inl ⟨rfl, rfl⟩
  · simp only
    split_ifs
    · exact .inr ⟨owned, neutral, rfl, rfl, rfl⟩
    · exact .inl ⟨rfl, rfl⟩
    · exact .inl ⟨rfl, rfl⟩

theorem contested_new (cfg : WorldConfig) : Contested (WorldEngine.new cfg) := by
  constructor
  · intro zone
    cases zone <;> exact ⟨_, rfl⟩
  · intro zone faction points found
    cases found

theorem contested_pressed (inv : Contested engine) {after : WorldEngine} {points : UInt8} (named : winner ≠ .Neutral)
    (unowned : (engine.territory.lookup zone).getD .Neutral ≠ winner) (few : 1 ≤ points.toNat ∧ points.toNat ≤ 4)
    (territory : after.territory = engine.territory)
    (pressure : after.zonePressure = engine.zonePressure.insert zone (winner, points)) : Contested after := by
  constructor
  · rw [territory]
    exact inv.owned
  · intro other faction held found
    rw [pressure, HashMap.lookup_insert_eq] at found
    rw [territory]
    split_ifs at found with same
    · cases found
      rw [same]
      exact ⟨few.1, few.2, named, mt (owner_iff (inv.owned zone)).mpr unowned⟩
    · exact inv.rivals other faction held found

theorem contested_captured (inv : Contested engine) {after : WorldEngine}
    (territory : after.territory = engine.territory.insert zone winner)
    (pressure : after.zonePressure = engine.zonePressure.erase zone) : Contested after := by
  constructor
  · intro other
    rw [territory, HashMap.lookup_insert_eq]
    split_ifs
    · exact ⟨winner, rfl⟩
    · exact inv.owned other
  · intro other faction points found
    rw [pressure, HashMap.lookup_erase_eq] at found
    split_ifs at found with same
    rw [territory, HashMap.lookup_insert_eq, if_neg same]
    exact inv.rivals other faction points found

theorem contested_shift (inv : Contested engine) (zone : ZoneId) (winner : Faction) :
    Contested (engine.shiftTerritory zone winner) := by
  have moved := shifted engine zone winner
  generalize engine.shiftTerritory zone winner = after at moved
  cases moved with
  | passed => exact inv
  | captured _ _ _ _ territory pressure => exact contested_captured inv territory pressure
  | started named unowned _ territory pressure => exact contested_pressed inv named unowned (by decide) territory pressure
  | @pushed _ points named unowned found few territory pressure =>
      obtain ⟨-, bound, -⟩ := inv.rivals zone winner points found
      have next := toNat_point bound
      rw [UInt8.le_iff_toNat_le, next, show (5 : UInt8).toNat = 5 from rfl] at few
      exact contested_pressed inv named unowned (by omega) territory pressure

theorem contested_apply (inv : Contested engine) (step : ZoneStep) : Contested (step.apply engine) := by
  cases step with
  | shift zone winner => exact contested_shift inv zone winner
  | sessions queues => exact ⟨inv.owned, inv.rivals⟩

theorem points_fit (inv : Contested engine) (zone : ZoneId) (winner : Faction) :
    ((engine.zonePressure.lookup zone).getD (winner, 0)).2.toNat + 1 < 256 := by
  cases found : engine.zonePressure.lookup zone with
  | none => exact (by decide : 0 + 1 < 256)
  | some entry =>
      have bound := (inv.rivals zone entry.1 entry.2 found).2.1
      rw [Option.getD_some]
      omega

theorem shiftsFairly (inv : Contested engine) (zone : ZoneId) (winner : Faction) :
    ShiftsFairly engine zone winner := by
  rcases shiftTerritory_queues engine zone winner with ⟨territory, queues⟩ | ⟨unowned, named, territory, pressure, queues⟩
  · refine ⟨points_fit inv zone winner, ?_, fun other change => ?_, fun _ => queues⟩
    · rw [territory]
      exact fun other held => held
    · rw [territory] at change
      exact absurd rfl change
  · have owner : (engine.shiftTerritory zone winner).territory.lookup zone = some winner := by
      rw [territory, AList.lookup_insert]
    have elsewhere (other : ZoneId) (away : other ≠ zone) :
        (engine.shiftTerritory zone winner).territory.lookup other = engine.territory.lookup other := by
      rw [territory, AList.lookup_insert_ne away]
    refine ⟨points_fit inv zone winner, fun other held => ?_, fun other change => ?_, fun same => ?_⟩
    · have away : other ≠ zone := by
        rintro rfl
        exact named (Option.some.inj (owner.symm.trans held))
      exact (elsewhere other away).symm.trans held
    · have here : other = zone := by_contra fun away => change (elsewhere other away)
      refine ⟨here, owner, ?_, queues⟩
      rw [pressure]
      exact AList.lookup_eq_none.mp (AList.lookup_erase _ _)
    · exact absurd ((owner_iff (inv.owned zone)).mpr ((same zone).symm.trans owner)) unowned

theorem zones_stay_contested (cfg : WorldConfig) (steps : List ZoneStep) :
    Contested (afterSteps cfg steps) ∧ ∀ zone winner, ShiftsFairly (afterSteps cfg steps) zone winner := by
  have inv : Contested (afterSteps cfg steps) :=
    List.foldlRecOn steps ZoneStep.apply (contested_new cfg) fun _ inv step _ => contested_apply inv step
  exact ⟨inv, shiftsFairly inv⟩

end LiveWorld.Proof.Engine

import LiveWorld.Proof.Engine.Sound
import LiveWorld.Spec.Freshness
import LiveWorld.Spec.Recovery

/-!
# Which ids are fresh after a cold start

The counter of actor ids starts at 1 in every process. A run that creates `n` actors uses the ids `1` to
`n`, and the restored actors keep theirs for as long as the process runs.
-/

namespace LiveWorld.Proof.Freshness
open HashTable Spec Proof.Runtime Proof.Engine
variable {cfg : WorldConfig} {persisted : List ActorId} {n : Nat} {s : Server} {engine : WorldEngine}

/-! ## Steps as calls of the engine -/

structure Quiet (call : EngineCall) : Prop where
  spawned : call.spawned = none
  sent : call.sent ≠ some .Shutdown
  stays : ∀ id, call ≠ .despawnActor id

theorem quiet_send (handle : ActorHandle) {msg : ActorMessage} (other : msg ≠ .Shutdown) :
    Quiet (.send handle msg) :=
  ⟨rfl, fun same => other (Option.some.inj same), by simp⟩

theorem apply_engine {step : ServerStep} (other : step.creates = false) :
    (step.apply s).nextActorId = s.nextActorId ∧
      ((step.apply s).engine = s.engine ∨
        ∃ call, Quiet call ∧ (step.apply s).engine = EngineCall.apply s.engine call) := by
  have sendTo (session : SessionId) {msg : ActorMessage} (running : msg ≠ .Shutdown) :
      (s.sendTo session msg).nextActorId = s.nextActorId ∧ ((s.sendTo session msg).engine = s.engine ∨
        ∃ call, Quiet call ∧ (s.sendTo session msg).engine = EngineCall.apply s.engine call) := by
    unfold Server.sendTo
    cases s.sessionHandles.lookup session with
    | none => exact ⟨rfl, .inl rfl⟩
    | some handle => exact ⟨rfl, .inr ⟨.send handle msg, quiet_send handle running, rfl⟩⟩
  cases step with
  | command ord cmd =>
      cases cmd with
      | CreateActor session name personality backstory model position role faction =>
          have unchanged : ServerStep.apply s (.command ord
              (.CreateActor session name personality backstory model position role faction)) = s := by
            simp only [ServerStep.creates, decide_eq_false_iff_not] at other
            simp only [ServerStep.apply, Server.process, Server.createActor]
            split_ifs
            · rfl
            · rfl
            · rfl
            all_goals omega
          rw [unchanged]
          exact ⟨rfl, .inl rfl⟩
      | MoveActor session dest => exact sendTo session (by simp)
      | ChatActor session text =>
          simp only [ServerStep.apply, Server.process]
          split_ifs
          · exact ⟨rfl, .inl rfl⟩
          · exact sendTo session (by simp)
      | DestroyActor session _ | SessionDisconnect session =>
          exact ⟨rfl, .inr ⟨.removeSession session true, ⟨rfl, by simp [EngineCall.sent], by simp⟩, rfl⟩⟩
  | agent handle decision =>
      refine ⟨rfl, .inr ⟨.send handle decision.message, quiet_send handle ?_, rfl⟩⟩
      cases decision <;> simp [Decision.message]
  | directive order =>
      refine ⟨rfl, .inr ⟨.applyDirective order, ⟨rfl, ?_, by simp⟩, rfl⟩⟩
      cases order <;> simp [EngineCall.sent]
  | pump session => exact ⟨rfl, .inr ⟨.drainSession session, ⟨rfl, by simp [EngineCall.sent], by simp⟩, rfl⟩⟩
  | tick ord clock => exact ⟨rfl, .inr ⟨.tick ord clock, ⟨rfl, by simp [EngineCall.sent], by simp⟩, rfl⟩⟩

theorem apply_create {step : ServerStep} (creates : step.creates = true) :
    ∃ ord cmd spec session, step = .command ord cmd ∧ (s.process ord cmd).1 = some (.ok ⟨s.nextActorId⟩) ∧
      spec.id = ⟨s.nextActorId⟩ ∧ (step.apply s).engine = (s.engine.spawnActorForSession ord spec session).2 ∧
      (step.apply s).nextActorId = s.nextActorId + 1 := by
  cases step with
  | command ord cmd =>
      cases cmd with
      | CreateActor session name personality backstory model position role faction =>
          simp only [ServerStep.creates, decide_eq_true_eq] at creates
          obtain ⟨short, short', short''⟩ := creates
          refine ⟨ord, _, ⟨⟨s.nextActorId⟩, name, personality, backstory, model, position.clampToWorld,
            role.getD .default, faction.getD .default⟩, session, rfl, ?_, rfl, ?_, ?_⟩
          all_goals
            simp only [ServerStep.apply, Server.process, Server.createActor, Nat.not_lt.mpr short, Nat.not_lt.mpr short',
              Nat.not_lt.mpr short'', if_false]
            rfl
      | _ => simp [ServerStep.creates] at creates
  | _ => simp [ServerStep.creates] at creates

theorem Quiet.keeps {ids : List ActorId} {call : EngineCall} (quiet : Quiet call) (inv : Sound cfg ids engine)
    {id : ActorId} (live : id ∈ engine.runtime.actors)
    (unowned : ∀ session, engine.sessionToActor.lookup session ≠ some id) :
    id ∈ (call.apply engine).runtime.actors := by
  cases call with
  | spawnActorForSession ord spec session => cases quiet.spawned
  | spawnActorStandalone spec => cases quiet.spawned
  | despawnActor gone => exact absurd rfl (quiet.stays gone)
  | removeSession session despawn =>
      simp only [EngineCall.apply, WorldEngine.removeSession]
      cases despawn with
      | false => exact live
      | true =>
          cases owned : engine.sessionToActor.lookup session with
          | none => exact live
          | some other =>
              have different : id ≠ other := fun same => unowned session (same ▸ owned)
              obtain ⟨actor, found⟩ := HashMap.lookup_of_mem live
              apply HashMap.mem_of_lookup
              exact (despawnActor_lookup _ other id).trans ((if_neg different).trans found)
  | send handle msg => exact live
  | applyDirective directive =>
      rw [EngineCall.apply, (effected_applyDirective engine directive).actors]
      exact live
  | broadcastWorldEvent message => exact live
  | drainSession session =>
      simp only [EngineCall.apply, WorldEngine.drainSession]
      cases engine.sessionQueues.lookup session <;> exact live
  | tick ord clock => exact (inv.mem_tick ord clock id).mpr live

theorem Quiet.owners {call : EngineCall} (quiet : Quiet call)
    {session : SessionId} {id : ActorId} (found : (call.apply engine).sessionToActor.lookup session = some id) :
    engine.sessionToActor.lookup session = some id := by
  have erased (other : SessionId) (found : (engine.sessionToActor.erase other).lookup session = some id) :
      engine.sessionToActor.lookup session = some id := by
    rw [HashMap.lookup_erase_eq] at found
    split_ifs at found
    exact found
  cases call with
  | spawnActorForSession ord spec session => cases quiet.spawned
  | spawnActorStandalone spec => cases quiet.spawned
  | despawnActor gone => exact absurd rfl (quiet.stays gone)
  | removeSession left despawn =>
      simp only [EngineCall.apply, WorldEngine.removeSession] at found
      cases despawn with
      | false => exact erased left found
      | true =>
          cases owned : engine.sessionToActor.lookup left with
          | none =>
              rw [owned] at found
              exact found
          | some other =>
              rw [owned] at found
              exact erased left found
  | send handle msg => exact found
  | applyDirective directive =>
      rw [EngineCall.apply, (effected_applyDirective engine directive).sessionToActor] at found
      exact found
  | broadcastWorldEvent message => exact found
  | drainSession left =>
      simp only [EngineCall.apply, WorldEngine.drainSession] at found
      cases queued : engine.sessionQueues.lookup left <;> rw [queued] at found <;> exact found
  | tick ord clock =>
      have finished := finished_tick engine ord clock
      have effected := effected_applyEffects engine ord
      rw [EngineCall.apply, finished.sessionToActor, effected.sessionToActor] at found
      exact found

/-! ## A run that has created `n` actors -/

structure Grown (cfg : WorldConfig) (persisted : List ActorId) (n : Nat) (s : Server) : Prop where
  counter : s.nextActorId = UInt64.ofNat (n + 1)
  sound : ∃ ids, Sound cfg ids s.engine ∧ ∀ id ∈ ids, id ∈ persisted ∨ 0 < id.val.toNat ∧ id.val.toNat ≤ n
  resident : ∀ id ∈ persisted, id ∈ s.engine.runtime.actors
  guests : ∀ session id, s.engine.sessionToActor.lookup session = some id → id ∉ persisted

theorem Grown.quiet (inv : Grown cfg persisted n s) {step : ServerStep} (other : step.creates = false) :
    Grown cfg persisted n (step.apply s) := by
  obtain ⟨counter, same | ⟨call, quiet, called⟩⟩ := apply_engine (s := s) other
  · refine ⟨counter.trans inv.counter, ?_, ?_, ?_⟩
    · exact same ▸ inv.sound
    · exact same ▸ inv.resident
    · exact same ▸ inv.guests
  · obtain ⟨ids, sound, used⟩ := inv.sound
    have after : Sound cfg ids (step.apply s).engine := by
      have kept := sound.call call (by simp [quiet.spawned]) quiet.sent
      rw [quiet.spawned] at kept
      rw [called]
      exact kept
    refine ⟨counter.trans inv.counter, ⟨ids, after, used⟩, ?_, ?_⟩
    · intro id member
      rw [called]
      exact quiet.keeps sound (inv.resident id member) fun session owned => inv.guests session id owned member
    · intro session id found
      rw [called] at found
      exact inv.guests session id (quiet.owners found)

theorem Grown.newId (inv : Grown cfg persisted n s) (small : n + 1 < 2 ^ 64) : s.nextActorId.toNat = n + 1 := by
  rw [inv.counter]
  exact UInt64.toNat_ofNat_of_lt' small

theorem Grown.unused (inv : Grown cfg persisted n s) (small : n + 1 < 2 ^ 64) (unclaimed : ⟨s.nextActorId⟩ ∉ persisted) :
    ∃ ids, Sound cfg ids s.engine ∧ ⟨s.nextActorId⟩ ∉ ids ∧
      ∀ id ∈ ids, id ∈ persisted ∨ 0 < id.val.toNat ∧ id.val.toNat ≤ n := by
  obtain ⟨ids, sound, used⟩ := inv.sound
  refine ⟨ids, sound, fun member => ?_, used⟩
  have number := inv.newId small
  cases used _ member with
  | inl old => exact unclaimed old
  | inr bound =>
      have bound : s.nextActorId.toNat ≤ n := bound.2
      omega

theorem freshSpawn {ids : List ActorId} {spec : ActorSpec} (inv : Sound cfg ids engine) (fresh : spec.id ∉ ids)
    (ord : Order) (session : SessionId) :
    FreshSpawn engine (engine.spawnActorForSession ord spec session).2 spec.id := by
  have absent : spec.id ∉ engine.runtime.actors := fun live => fresh (inv.used _ live)
  have different {other : ActorId} (live : other ∈ engine.runtime.actors) : other ≠ spec.id :=
    fun same => absent (same ▸ live)
  have after : Sound cfg (spec.id :: ids) (engine.spawnActorForSession ord spec session).2 :=
    inv.spawnActorForSession fresh session
  refine ⟨absent, ?_, ?_, after.consistent.toBookkeeping⟩
  · intro other actor found
    exact (spawnActor_lookup engine.runtime spec other).trans
      ((if_neg (different (HashMap.mem_of_lookup found))).trans found)
  · intro other handle found
    have live := (inv.consistent.sameKeys other).mpr (HashMap.mem_of_lookup found)
    exact (HashMap.lookup_insert_eq _ _ _ _).trans ((if_neg (different live)).trans found)

theorem Grown.create (inv : Grown cfg persisted n s) (small : n + 1 < 2 ^ 64) {step : ServerStep}
    (creates : step.creates = true) (unclaimed : ⟨s.nextActorId⟩ ∉ persisted) :
    Grown cfg persisted (n + 1) (step.apply s) := by
  obtain ⟨ord, cmd, spec, session, -, -, id, engine, counter⟩ := apply_create (s := s) creates
  obtain ⟨ids, sound, fresh, used⟩ := inv.unused small unclaimed
  rw [← id] at fresh unclaimed
  have after : Sound cfg (spec.id :: ids) (step.apply s).engine := by
    rw [engine]
    exact sound.spawnActorForSession fresh session
  refine ⟨?_, ⟨spec.id :: ids, after, ?_⟩, ?_, ?_⟩
  · rw [counter, inv.counter, UInt64.ofNat_add (n + 1) 1]
    rfl
  · intro other member
    cases List.mem_cons.mp member with
    | inl new =>
        right
        rw [new, id]
        change 0 < s.nextActorId.toNat ∧ s.nextActorId.toNat ≤ n + 1
        rw [inv.newId small]
        exact ⟨Nat.succ_pos n, le_rfl⟩
    | inr old => exact (used other old).imp_right fun bound => ⟨bound.1, bound.2.trans (Nat.le_succ n)⟩
  · intro other member
    rw [engine]
    exact (AList.mem_insert _).mpr (.inr (inv.resident other member))
  · intro other owner found
    rw [engine] at found
    change (s.engine.sessionToActor.insert session spec.id).lookup other = _ at found
    rw [HashMap.lookup_insert_eq] at found
    split_ifs at found
    · cases found
      exact unclaimed
    · exact inv.guests other owner found

/-! ## Whole runs -/

theorem reply_creates {ord : Order} {cmd : EngineCommand} {id : ActorId}
    (replied : (s.process ord cmd).1 = some (.ok id)) :
    (ServerStep.command ord cmd).creates = true ∧ id = ⟨s.nextActorId⟩ := by
  cases created : (ServerStep.command ord cmd).creates with
  | true =>
      obtain ⟨_, _, _, _, same, reply, -⟩ := apply_create (s := s) created
      cases same
      rw [reply] at replied
      cases replied
      exact ⟨rfl, rfl⟩
  | false =>
      cases cmd with
      | CreateActor session name personality backstory model position role faction =>
          simp only [ServerStep.creates, decide_eq_false_iff_not] at created
          simp only [Server.process, Server.createActor] at replied
          split_ifs at replied
          all_goals first | omega | cases replied
      | _ => cases replied

theorem creations_cons (step : ServerStep) (rest : List ServerStep) :
    creations (step :: rest) = creations rest + if step.creates then 1 else 0 :=
  List.countP_cons

-- the new id is free iff no restored actor has it, because these are all there
theorem Grown.fresh_iff (inv : Grown cfg persisted n s) (small : n + 1 < 2 ^ 64) {step : ServerStep}
    (creates : step.creates = true) :
    (∀ ord cmd id, step = .command ord cmd → (s.process ord cmd).1 = some (.ok id) →
      FreshSpawn s.engine (step.apply s).engine id) ↔ ⟨s.nextActorId⟩ ∉ persisted := by
  obtain ⟨ord, cmd, spec, session, same, reply, id, engine, -⟩ := apply_create (s := s) creates
  constructor
  · intro fresh claimed
    exact (fresh ord cmd _ same reply).fresh (inv.resident _ claimed)
  · intro unclaimed ord' cmd' id' same' replied
    subst same'
    obtain ⟨ids, sound, fresh, -⟩ := inv.unused small unclaimed
    rw [(reply_creates replied).2, engine, ← id]
    exact freshSpawn sound (id ▸ fresh) ord session

theorem Grown.unclaimed_iff (inv : Grown cfg persisted n s) (small : n + 1 < 2 ^ 64) :
    ⟨s.nextActorId⟩ ∉ persisted ↔ ∀ id ∈ persisted, id.val.toNat ≠ n + 1 := by
  have number := inv.newId small
  constructor
  · intro unclaimed id member equal
    apply unclaimed
    have same : id.val = s.nextActorId := UInt64.toNat_inj.mp (equal.trans number.symm)
    rw [← same]
    exact member
  · intro apart claimed
    exact apart _ claimed number

theorem spawnsFresh_iff (inv : Grown cfg persisted n s) (steps : List ServerStep)
    (few : n + creations steps + 1 < 2 ^ 64) :
    SpawnsFresh s steps ↔ ∀ id ∈ persisted, id.val.toNat ≤ n ∨ n + creations steps < id.val.toNat := by
  induction steps generalizing n s with
  | nil =>
      simp only [SpawnsFresh, creations, List.countP_nil, true_iff]
      intro id _
      omega
  | cons step rest ih =>
      rw [creations_cons] at few ⊢
      rw [SpawnsFresh]
      cases creates : step.creates with
      | false =>
          rw [creates, if_neg Bool.false_ne_true, Nat.add_zero] at few
          rw [if_neg Bool.false_ne_true, Nat.add_zero, ih (inv.quiet creates) few]
          apply and_iff_right
          intro ord cmd id equal replied
          subst equal
          rw [(reply_creates replied).1] at creates
          cases creates
      | true =>
          rw [creates, if_pos rfl] at few
          rw [if_pos rfl, inv.fresh_iff (by omega) creates]
          have later (unclaimed : ⟨s.nextActorId⟩ ∉ persisted) :=
            ih (inv.create (by omega) creates unclaimed) (by omega)
          constructor
          · intro given id member
            obtain ⟨unclaimed, fresh⟩ := given
            have bound := (later unclaimed).mp fresh id member
            have other := (inv.unclaimed_iff (by omega)).mp unclaimed id member
            omega
          · intro apart
            have unclaimed : ⟨s.nextActorId⟩ ∉ persisted := by
              rw [inv.unclaimed_iff (by omega)]
              intro id member
              have := apart id member
              omega
            refine ⟨unclaimed, (later unclaimed).mpr fun id member => ?_⟩
            have := apart id member
            omega

/-! ## After the boot -/

theorem residents_engine (specs : List ActorSpec) (s : Server) :
    (specs.foldl Server.spawnResident s).engine =
      specs.foldl (fun engine spec => (engine.spawnActorStandalone spec).2) s.engine := by
  induction specs generalizing s with
  | nil => rfl
  | cons first rest ih => exact ih (s.spawnResident first)

theorem boot_engine (cfg : WorldConfig) (snapshot : WorldSnapshot) :
    (Server.boot cfg (.ok (some snapshot))).engine = coldStart cfg snapshot :=
  residents_engine (restoreActors snapshot) (Server.new cfg)

theorem residents_frame (specs : List ActorSpec) (s : Server) :
    (specs.foldl Server.spawnResident s).nextActorId = s.nextActorId ∧
      (specs.foldl Server.spawnResident s).engine.sessionToActor = s.engine.sessionToActor := by
  induction specs generalizing s with
  | nil => exact ⟨rfl, rfl⟩
  | cons first rest ih => exact ih (s.spawnResident first)

theorem residents_sound {ids : List ActorId} (specs : List ActorSpec) (inv : Sound cfg ids s.engine)
    (distinct : (specs.map ActorSpec.id).Nodup) (fresh : ∀ spec ∈ specs, spec.id ∉ ids) :
    ∃ ids', Sound cfg ids' (specs.foldl Server.spawnResident s).engine ∧
      ∀ id ∈ ids', id ∈ specs.map ActorSpec.id ∨ id ∈ ids := by
  induction specs generalizing s ids with
  | nil => exact ⟨ids, inv, fun id member => .inr member⟩
  | cons first rest ih =>
      rw [List.map_cons, List.nodup_cons] at distinct
      have spawned : Sound cfg (first.id :: ids) (s.spawnResident first).engine :=
        inv.spawn (fresh first List.mem_cons_self)
      obtain ⟨ids', sound, used⟩ := ih spawned distinct.2 fun spec member there => by
        rcases List.mem_cons.mp there with same | old
        · exact distinct.1 (same ▸ List.mem_map_of_mem member)
        · exact fresh spec (List.mem_cons_of_mem _ member) old
      refine ⟨ids', sound, fun id member => ?_⟩
      rw [List.map_cons, List.mem_cons]
      rcases used id member with later | now
      · exact .inl (.inr later)
      · exact (List.mem_cons.mp now).imp_left .inl

theorem residents_live (specs : List ActorSpec) (s : Server) (id : ActorId)
    (there : id ∈ specs.map ActorSpec.id ∨ id ∈ s.engine.runtime.actors) :
    id ∈ (specs.foldl Server.spawnResident s).engine.runtime.actors := by
  induction specs generalizing s with
  | nil => exact there.resolve_left List.not_mem_nil
  | cons first rest ih =>
      apply ih (s.spawnResident first)
      rw [List.map_cons, List.mem_cons] at there
      have grown : id ∈ (s.spawnResident first).engine.runtime.actors ↔ id = first.id ∨ id ∈ s.engine.runtime.actors :=
        AList.mem_insert _
      rw [grown]
      tauto

theorem grown_boot (cfg : WorldConfig) (snapshot : WorldSnapshot)
    (distinct : (snapshot.actors.map fun a => a.spec.id).Nodup) :
    Grown cfg (snapshot.actors.map fun a => a.spec.id) 0 (Server.boot cfg (.ok (some snapshot))) := by
  have ids : (restoreActors snapshot).map ActorSpec.id = snapshot.actors.map fun a => a.spec.id := by
    rw [restoreActors, List.map_map]
    rfl
  obtain ⟨counter, owners⟩ := residents_frame (restoreActors snapshot) (Server.new cfg)
  obtain ⟨used, sound, bound⟩ := residents_sound (s := Server.new cfg) (restoreActors snapshot) (sound_new cfg)
    (ids ▸ distinct) fun spec _ => List.not_mem_nil
  refine ⟨counter, ⟨used, sound, fun id member => .inl ?_⟩, ?_, ?_⟩
  · exact ids ▸ (bound id member).resolve_right List.not_mem_nil
  · intro id member
    exact residents_live _ _ id (.inl (ids ▸ member))
  · intro session id found
    change (((restoreActors snapshot).foldl Server.spawnResident (Server.new cfg)).engine.sessionToActor).lookup
      session = _ at found
    rw [owners] at found
    cases found

/-- After a cold start all new ids are fresh exactly when no restored id is among those that the run hands out. -/
theorem fresh_ids_iff (cfg : WorldConfig) (snapshot : WorldSnapshot)
    (distinct : (snapshot.actors.map fun a => a.spec.id).Nodup) (steps : List ServerStep)
    (few : creations steps + 1 < 2 ^ 64) :
    SpawnsFresh (Server.boot cfg (.ok (some snapshot))) steps ↔
      ∀ a ∈ snapshot.actors, a.spec.id.val = 0 ∨ creations steps < a.spec.id.val.toNat := by
  rw [spawnsFresh_iff (grown_boot cfg snapshot distinct) steps (by omega), List.forall_mem_map]
  apply forall₂_congr
  intro a _
  rw [Nat.le_zero, Nat.zero_add, ← UInt64.toNat_inj]
  rfl

/-- After the first boot, which numbers its residents with the same counter, all ids are fresh. -/
theorem fresh_after_first_boot (cfg : WorldConfig) (steps : List ServerStep) (few : creations steps + 21 < 2 ^ 64) :
    SpawnsFresh (Server.boot cfg (.ok none)) steps := by
  let server := { Server.new cfg with nextActorId := (Server.defaultNpcs 1).2 }
  have numbers : ∀ spec ∈ (Server.defaultNpcs 1).1, 0 < spec.id.val.toNat ∧ spec.id.val.toNat ≤ 20 := by decide
  have distinct : ((Server.defaultNpcs 1).1.map ActorSpec.id).Nodup := by decide
  obtain ⟨counter, owners⟩ := residents_frame (Server.defaultNpcs 1).1 server
  obtain ⟨used, sound, bound⟩ := residents_sound (s := server) (Server.defaultNpcs 1).1 (sound_new cfg) distinct
    fun spec _ => List.not_mem_nil
  have grown : Grown cfg [] 20 (Server.boot cfg (.ok none)) := by
    refine ⟨counter, ⟨used, sound, fun id member => .inr ?_⟩, fun id member => absurd member List.not_mem_nil, ?_⟩
    · obtain ⟨spec, there, rfl⟩ := List.mem_map.mp ((bound id member).resolve_right List.not_mem_nil)
      exact numbers spec there
    · exact fun session id _ => List.not_mem_nil
  exact (spawnsFresh_iff grown steps (by omega)).mpr fun id member => absurd member List.not_mem_nil

/-! ## A restored actor and a newcomer -/

def remembered (id : UInt64) : WorldSnapshot :=
  ((WorldEngine.new .default).spawnActorStandalone (villager id ⟨5, 5⟩)).2.worldSnapshotForPersist .stored 0

def newcomer (session : UInt64) : ServerStep :=
  .command .stored (.CreateActor ⟨session⟩ "Wanderer" "curious" "A traveler" .Mock ⟨100, 200⟩ none none)

theorem fresh_ids_two_newcomers :
    SpawnsFresh (Server.boot .default (.ok (some (remembered 30))))
      [newcomer 1, .tick .stored fun _ => 0, newcomer 2] := by
  apply (fresh_ids_iff .default (remembered 30) (by decide +kernel) _ (by decide)).mpr
  decide +kernel

theorem newcomer_replaces_restored :
    ¬∀ snapshot steps, (snapshot.actors.map fun a => a.spec.id).Nodup → creations steps + 1 < 2 ^ 64 →
      SpawnsFresh (Server.boot .default (.ok (some snapshot))) steps := by
  intro claim
  have spawned := claim (remembered 1) [newcomer 1] (by decide +kernel) (by decide)
  have absent : (⟨1⟩ : ActorId) ∉ (Server.boot .default (.ok (some (remembered 1)))).engine.runtime.actors :=
    (spawned.1 .stored _ ⟨1⟩ rfl rfl).fresh
  exact absent (by decide +kernel)

end LiveWorld.Proof.Freshness

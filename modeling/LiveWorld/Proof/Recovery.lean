import LiveWorld.Proof.Engine.Durable
import LiveWorld.Spec.Bookkeeping
import LiveWorld.Spec.Recovery

/-!
# What a cold start brings back

A snapshot holds the spec and the state of every live actor. The specs lose their role and their
faction on the way back, and of the states only the position is used.
-/

namespace LiveWorld.Proof.Recovery
open HashTable Spec Proof.Engine Proof.Runtime
variable {cfg : WorldConfig} {engine : WorldEngine} {w : World}

/-! ## The model key -/

theorem ollama_key (name : String) : ("ollama/" ++ name).toList = "ollama/".toList ++ name.toList :=
  String.toList_append

theorem ollama_ne {key name : String} (first : key.toList.head? ≠ some 'o') : "ollama/" ++ name ≠ key := by
  intro same
  apply first
  rw [← same, ollama_key]
  rfl

theorem model_toString (model : LlmModel) : PersistedSpec.model model.toString = model := by
  cases model with
  | Ollama name =>
      have notKey : ∀ key : String, key.toList.head? ≠ some 'o' → "ollama/" ++ name ≠ key := fun _ => ollama_ne
      have starts : "ollama/".toList.isPrefixOf ("ollama/" ++ name).toList = true := by
        rw [ollama_key, List.isPrefixOf_iff_prefix]
        exact List.prefix_append _ _
      change PersistedSpec.model ("ollama/" ++ name) = _
      unfold PersistedSpec.model
      rw [if_neg (notKey "gpt-4o" (by decide)), if_neg (notKey "claude-sonnet-4-6" (by decide)),
        if_neg (notKey "claude-opus-4-7" (by decide)), if_neg (notKey "mock" (by decide)), if_pos starts, ollama_key,
        List.drop_left' (by decide), String.ofList_toList]
  | _ => rfl

/-! ## What a snapshot holds -/

structure Wellborn (id : ActorId) (actor : Actor) : Prop where
  spec : actor.spec.id = id
  state : actor.state.id = id
  maxHp : actor.state.maxHp = (Actor.hitPoints actor.spec.role).2
  level : actor.state.xp = 0 → actor.state.level = 1

theorem gainXp_level {actor : Actor} (level : actor.state.xp = 0 → actor.state.level = 1) (amount : UInt32) :
    (actor.gainXp amount).1.state.xp = 0 → (actor.gainXp amount).1.state.level = 1 := by
  intro none
  have sum : Machine.saturatingAdd32 actor.state.xp amount = 0 := by
    unfold Actor.gainXp at none
    simp only at none
    split_ifs at none <;> exact none
  -- the sum is zero only if there was no experience before
  have before : actor.state.xp = 0 := by
    unfold Machine.saturatingAdd32 at sum
    split_ifs at sum with fits
    · have total := congrArg UInt32.toNat sum
      rw [UInt32.toNat_add, Nat.mod_eq_of_lt fits, UInt32.toNat_zero] at total
      apply UInt32.toNat_inj.mp
      rw [UInt32.toNat_zero]
      omega
    · exact absurd sum (by decide)
  unfold Actor.gainXp
  simp only [sum]
  rw [level before, if_neg (by decide)]

theorem durable_wellborn : Durable Wellborn := by
  refine ⟨⟨?_, ?_, ?_⟩, fun rt spec => ⟨rfl, rfl, rfl, fun _ => rfl⟩⟩
  · exact fun id actor tickNum inv => ⟨inv.spec, inv.state, inv.maxHp, inv.level⟩
  · intro id actor msg inv
    obtain ⟨same, -⟩ := handleMessage_same actor msg
    refine ⟨same.spec ▸ inv.spec, same.id.trans inv.state, ?_, ?_⟩
    · rw [same.maxHp, same.spec]
      exact inv.maxHp
    · cases msg with
      | GainXp amount => exact gainXp_level inv.level amount
      | TakeDamage amount fromName =>
          simp only [Actor.handleMessage, Actor.takeDamage]
          split_ifs <;> exact inv.level
      | _ => exact inv.level
  · exact fun id actor dest cell inv => ⟨inv.spec, inv.state, inv.maxHp, inv.level⟩

def entry (actor : Actor) : ActorSnapshot := ⟨PersistedSpec.fromSpec actor.spec, actor.state⟩

def Keyed (id : ActorId) (actor : Actor) : Prop := actor.spec.id = id ∧ actor.state.id = id

theorem keyed_of_wellborn (all : All Wellborn engine.runtime) : All Keyed engine.runtime :=
  fun id actor found => ⟨(all id actor found).spec, (all id actor found).state⟩

theorem specs_distinct (all : All Keyed engine.runtime) (ord : Order) :
    ((engine.runtime.specsSnapshot ord).map ActorSpec.id).Nodup := by
  have keys : (engine.runtime.specsSnapshot ord).map ActorSpec.id = (ord.visit engine.runtime.actors.entries).keys := by
    rw [ActorRuntime.specsSnapshot, HashMap.values, List.map_map, List.map_map, List.keys]
    apply List.map_congr_left
    intro stored member
    exact (all stored.1 stored.2 (HashMap.mem_entries_iff.mp (ord.mem_visit.mp member))).1
  rw [keys]
  exact visit_nodupKeys ord engine.runtime.actors

theorem snapshot_actors (all : All Keyed engine.runtime) (ord : Order) (now : UInt64) :
    (engine.worldSnapshotForPersist ord now).actors = (HashMap.values ord engine.runtime.actors).map entry := by
  simp only [WorldEngine.worldSnapshotForPersist, buildSnapshot, ActorRuntime.snapshotAll]
  rw [List.filterMap_map, ← List.filterMap_eq_map]
  apply List.filterMap_congr
  intro actor member
  obtain ⟨id, found⟩ := HashMap.mem_values.mp member
  have inv := all id actor found
  have listed : actor.spec ∈ engine.runtime.specsSnapshot ord := List.mem_map_of_mem member
  have lookup := HashMap.lookup_collect_of_mem (specs_distinct all ord) listed
  simp only [Function.comp, Actor.snapshot]
  rw [inv.2, ← inv.1, lookup]
  rfl

theorem reread_eq (codec : Codec) (engine : WorldEngine) (ord : Order) (now : UInt64) :
    reread codec engine ord now = some (engine.worldSnapshotForPersist ord now) :=
  codec.deserialize_serialize _

/-! ## The restored specs -/

def restoredSpec (actor : Actor) : ActorSpec :=
  { actor.spec with
    position := actor.state.position
    role := .Wanderer
    faction := .Neutral }

theorem intoSpec_entry (actor : Actor) : (entry actor).spec.intoSpec (entry actor).state.position = restoredSpec actor := by
  simp only [entry, PersistedSpec.fromSpec, PersistedSpec.intoSpec, model_toString, restoredSpec]
  rfl

theorem restoreActors_snapshot (all : All Wellborn engine.runtime) (ord : Order) (now : UInt64) :
    restoreActors (engine.worldSnapshotForPersist ord now) =
      (HashMap.values ord engine.runtime.actors).map restoredSpec := by
  rw [restoreActors, snapshot_actors (keyed_of_wellborn all), List.map_map]
  apply List.map_congr_left
  intro actor _
  exact intoSpec_entry actor

theorem mem_restoreActors (all : All Wellborn engine.runtime) (ord : Order) (now : UInt64) (spec : ActorSpec) :
    spec ∈ restoreActors (engine.worldSnapshotForPersist ord now) ↔
      ∃ id actor, engine.runtime.actors.lookup id = some actor ∧ spec = restoredSpec actor := by
  rw [restoreActors_snapshot all, List.mem_map]
  constructor
  · intro given
    obtain ⟨actor, member, same⟩ := given
    obtain ⟨id, found⟩ := HashMap.mem_values.mp member
    exact ⟨id, actor, found, same.symm⟩
  · intro given
    obtain ⟨id, actor, found, same⟩ := given
    exact ⟨actor, HashMap.mem_values.mpr ⟨id, found⟩, same.symm⟩

theorem restored_distinct (all : All Wellborn engine.runtime) (ord : Order) (now : UInt64) :
    ((restoreActors (engine.worldSnapshotForPersist ord now)).map ActorSpec.id).Nodup := by
  have ids : (restoreActors (engine.worldSnapshotForPersist ord now)).map ActorSpec.id =
      (engine.runtime.specsSnapshot ord).map ActorSpec.id := by
    rw [restoreActors_snapshot all, ActorRuntime.specsSnapshot, List.map_map, List.map_map]
    rfl
  rw [ids]
  exact specs_distinct (keyed_of_wellborn all) ord

theorem preservesIdentities_iff (all : All Wellborn engine.runtime) (ord : Order) (now : UInt64) :
    PreservesIdentities engine (engine.worldSnapshotForPersist ord now) ↔
      ∀ id actor, engine.runtime.actors.lookup id = some actor →
        actor.spec.role = .Wanderer ∧ actor.spec.faction = .Neutral := by
  constructor
  · intro preserved id actor found
    obtain ⟨other, source, -, same⟩ := (mem_restoreActors all ord now _).mp
      ((preserved.specs _).mpr ⟨id, actor, found, rfl⟩)
    exact ⟨congrArg ActorSpec.role same, congrArg ActorSpec.faction same⟩
  · intro plain
    refine ⟨restored_distinct all ord now, fun spec => ?_⟩
    rw [mem_restoreActors all]
    have same : ∀ id actor, engine.runtime.actors.lookup id = some actor →
        restoredSpec actor = { actor.spec with position := actor.state.position } := by
      intro id actor found
      obtain ⟨role, faction⟩ := plain id actor found
      simp only [restoredSpec, role, faction]
    constructor
    · intro given
      obtain ⟨id, actor, found, restored⟩ := given
      exact ⟨id, actor, found, restored.trans (same id actor found)⟩
    · intro given
      obtain ⟨id, actor, found, restored⟩ := given
      exact ⟨id, actor, found, restored.trans (same id actor found).symm⟩

theorem exists_reread (codec : Codec) (engine : WorldEngine) (ord : Order) (now : UInt64)
    (P : WorldSnapshot → Prop) :
    (∃ snapshot, reread codec engine ord now = some snapshot ∧ P snapshot) ↔
      P (engine.worldSnapshotForPersist ord now) := by
  simp only [reread_eq, Option.some.injEq, exists_eq_left']

/-- Identities survive exactly when everybody is a neutral wanderer. -/
theorem identities_preserved_iff (codec : Codec) (cfg : WorldConfig) (w : World)
    (reachable : WorldReachable cfg (fun _ _ => True) w) (ord : Order) (now : UInt64) :
    (∃ snapshot, reread codec w.engine ord now = some snapshot ∧ PreservesIdentities w.engine snapshot) ↔
      ∀ id actor, w.engine.runtime.actors.lookup id = some actor →
        actor.spec.role = .Wanderer ∧ actor.spec.faction = .Neutral := by
  rw [exists_reread]
  exact preservesIdentities_iff (all_reachable durable_wellborn reachable) ord now

/-! ## A world of one actor -/

def oneActor (spec : ActorSpec) : World := (World.start .default).next (.spawnActorStandalone spec)

theorem reachable_oneActor (spec : ActorSpec) : WorldReachable .default (fun _ _ => True) (oneActor spec) :=
  .step (.start rfl) trivial rfl

theorem lookup_oneActor (spec : ActorSpec) (id : ActorId) :
    (oneActor spec).engine.runtime.actors.lookup id =
      if id = spec.id then some (newborn (ActorRuntime.new .default) spec) else none :=
  spawnActor_lookup (ActorRuntime.new .default) spec id

theorem forall_oneActor (spec : ActorSpec) (P : Actor → Prop) :
    (∀ id actor, (oneActor spec).engine.runtime.actors.lookup id = some actor → P actor) ↔
      P (newborn (ActorRuntime.new .default) spec) := by
  constructor
  · intro all
    exact all spec.id _ ((lookup_oneActor spec spec.id).trans (if_pos rfl))
  · intro holds id actor found
    rw [lookup_oneActor] at found
    split_ifs at found
    cases found
    exact holds

theorem identities_preserved_villager :
    ∃ snapshot, reread tagged (oneActor (villager 1 ⟨5, 5⟩)).engine .stored 0 = some snapshot ∧
      PreservesIdentities (oneActor (villager 1 ⟨5, 5⟩)).engine snapshot := by
  apply (identities_preserved_iff tagged .default _ (reachable_oneActor _) .stored 0).mpr
  exact (forall_oneActor _ fun actor => actor.spec.role = .Wanderer ∧ actor.spec.faction = .Neutral).mpr ⟨rfl, rfl⟩

-- a knight of the Empire, as the first boot spawns one
def knight : ActorSpec := { villager 1 ⟨2000, 1500⟩ with role := .Knight, faction := .Empire }

theorem identities_lost_of_knight :
    ¬∀ w, WorldReachable .default (fun _ _ => True) w → ∀ ord now,
      ∃ snapshot, reread tagged w.engine ord now = some snapshot ∧ PreservesIdentities w.engine snapshot := by
  intro claim
  have preserved := claim _ (reachable_oneActor knight) .stored 0
  rw [exists_reread, preservesIdentities_iff (all_reachable durable_wellborn (reachable_oneActor knight)),
    forall_oneActor knight fun actor => actor.spec.role = .Wanderer ∧ actor.spec.faction = .Neutral] at preserved
  exact ActorRole.noConfusion preserved.1

/-! ## The restored states -/

theorem spawnAll_other (specs : List ActorSpec) (engine : WorldEngine) {id : ActorId}
    (absent : id ∉ specs.map ActorSpec.id) :
    (specs.foldl (fun engine spec => (engine.spawnActorStandalone spec).2) engine).runtime.actors.lookup id =
      engine.runtime.actors.lookup id := by
  induction specs generalizing engine with
  | nil => rfl
  | cons first rest ih =>
      rw [List.map_cons, List.mem_cons, not_or] at absent
      rw [List.foldl_cons, ih _ absent.2]
      exact (spawnActor_lookup engine.runtime first id).trans (if_neg absent.1)

theorem spawnAll_lookup (specs : List ActorSpec) (engine : WorldEngine) (distinct : (specs.map ActorSpec.id).Nodup)
    {spec : ActorSpec} (member : spec ∈ specs) :
    ∃ rt, (specs.foldl (fun engine spec => (engine.spawnActorStandalone spec).2) engine).runtime.actors.lookup
      spec.id = some (newborn rt spec) := by
  induction specs generalizing engine with
  | nil => cases member
  | cons first rest ih =>
      rw [List.map_cons, List.nodup_cons] at distinct
      rw [List.foldl_cons]
      cases List.mem_cons.mp member with
      | inr later => exact ih _ distinct.2 later
      | inl now =>
          subst now
          refine ⟨engine.runtime, ?_⟩
          rw [spawnAll_other rest _ distinct.1]
          exact (spawnActor_lookup engine.runtime spec spec.id).trans (if_pos rfl)

theorem coldStart_lookup (all : All Wellborn engine.runtime) (cfg : WorldConfig) (ord : Order) (now : UInt64)
    {id : ActorId} {actor : Actor} (found : engine.runtime.actors.lookup id = some actor) :
    ∃ rt, (coldStart cfg (engine.worldSnapshotForPersist ord now)).runtime.actors.lookup id =
      some (newborn rt (restoredSpec actor)) := by
  have member := (mem_restoreActors all ord now _).mpr ⟨id, actor, found, rfl⟩
  obtain ⟨rt, lookup⟩ := spawnAll_lookup _ (WorldEngine.new cfg) (restored_distinct all ord now) member
  have key : (restoredSpec actor).id = id := (all id actor found).spec
  rw [key] at lookup
  exact ⟨rt, lookup⟩

theorem asNew_iff {id : ActorId} {actor : Actor} (inv : Wellborn id actor) (rt : ActorRuntime) :
    SameProgress actor.state (newborn rt (restoredSpec actor)).state ↔ AsNew actor := by
  constructor
  · intro same
    have maxHp : actor.state.maxHp = 80 := same.maxHp.symm
    have hp : actor.state.hp = 80 := same.hp.symm
    refine ⟨?_, hp.trans maxHp.symm, same.xp.symm, same.lastUtterance.symm⟩
    rw [inv.maxHp] at maxHp
    cases role : actor.spec.role <;> simp_all [Actor.hitPoints]
  · intro new
    have maxHp : actor.state.maxHp = 80 := by rw [inv.maxHp, new.role]
    exact ⟨(new.unhurt.trans maxHp).symm, maxHp.symm, new.inexperienced.symm, (inv.level new.inexperienced).symm,
      new.silent.symm⟩

theorem preservesProgress_iff (all : All Wellborn engine.runtime) (cfg : WorldConfig) (ord : Order) (now : UInt64) :
    PreservesProgress (coldStart cfg (engine.worldSnapshotForPersist ord now))
      (engine.worldSnapshotForPersist ord now) ↔
      ∀ id actor, engine.runtime.actors.lookup id = some actor → AsNew actor := by
  have actors := snapshot_actors (keyed_of_wellborn all) ord now
  constructor
  · intro preserved id actor found
    have inv := all id actor found
    have stored : entry actor ∈ (engine.worldSnapshotForPersist ord now).actors := by
      rw [actors]
      exact List.mem_map_of_mem (HashMap.mem_values.mpr ⟨id, found⟩)
    obtain ⟨restored, there, same⟩ := preserved _ stored
    obtain ⟨rt, lookup⟩ := coldStart_lookup all cfg ord now found
    rw [show (entry actor).state.id = id from inv.state, lookup] at there
    cases there
    exact (asNew_iff inv rt).mp same
  · intro new stored member
    rw [actors] at member
    obtain ⟨actor, live, rfl⟩ := List.mem_map.mp member
    obtain ⟨id, found⟩ := HashMap.mem_values.mp live
    have inv := all id actor found
    obtain ⟨rt, lookup⟩ := coldStart_lookup all cfg ord now found
    refine ⟨_, ?_, (asNew_iff inv rt).mpr (new id actor found)⟩
    rw [show (entry actor).state.id = id from inv.state]
    exact lookup

/-- Progress survives exactly when nobody has made any. -/
theorem progress_preserved_iff (codec : Codec) (cfg : WorldConfig) (w : World)
    (reachable : WorldReachable cfg (fun _ _ => True) w) (ord : Order) (now : UInt64) (restart : WorldConfig) :
    (∃ snapshot, reread codec w.engine ord now = some snapshot ∧
      PreservesProgress (coldStart restart snapshot) snapshot) ↔
      ∀ id actor, w.engine.runtime.actors.lookup id = some actor → AsNew actor := by
  rw [exists_reread codec w.engine ord now fun snapshot => PreservesProgress (coldStart restart snapshot) snapshot]
  exact preservesProgress_iff (all_reachable durable_wellborn reachable) restart ord now

theorem progress_preserved_villager :
    ∃ snapshot, reread tagged (oneActor (villager 1 ⟨5, 5⟩)).engine .stored 0 = some snapshot ∧
      PreservesProgress (coldStart .default snapshot) snapshot := by
  apply (progress_preserved_iff tagged .default _ (reachable_oneActor _) .stored 0 .default).mpr
  exact (forall_oneActor _ AsNew).mpr ⟨rfl, rfl, rfl, rfl⟩

theorem progress_lost_of_knight :
    ¬∀ w, WorldReachable .default (fun _ _ => True) w → ∀ ord now,
      ∃ snapshot, reread tagged w.engine ord now = some snapshot ∧
        PreservesProgress (coldStart .default snapshot) snapshot := by
  intro claim
  have preserved := claim _ (reachable_oneActor knight) .stored 0
  rw [exists_reread tagged _ _ _ fun snapshot => PreservesProgress (coldStart .default snapshot) snapshot,
    preservesProgress_iff (all_reachable durable_wellborn (reachable_oneActor knight)),
    forall_oneActor knight AsNew] at preserved
  exact absurd preserved.role (by decide)

end LiveWorld.Proof.Recovery

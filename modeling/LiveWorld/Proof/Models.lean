import LiveWorld.Proof.Recovery
import LiveWorld.Spec.Models

/-!
# Keys of models

The key of a model determines it: no fixed name starts with `ollama/`, and what comes after that is the name of the
model, whatever it looks like.
-/

namespace LiveWorld.Proof.Models
open HashTable Spec LoopHistory
variable {s s' : Server} {h : LoopHistory}

/-! ## Keys -/

theorem toString_injective : Function.Injective LlmModel.toString :=
  Function.LeftInverse.injective Recovery.model_toString

/-! ## Loops and their caches -/

/-- What a step does to the loops and to the caches. -/
inductive Staffed (s : Server) : Server → Prop
  | kept {s' : Server} : s'.llmCaches = s.llmCaches → s'.running ⊆ s.running →
      (∀ session dl, s'.decisionHandles.lookup session = some dl → s.decisionHandles.lookup session = some dl) →
      Staffed s s'
  | hired {s' : Server} (session : SessionId) (dl : DecisionLoop) : dl.cacheKey = some dl.spec.model.toString →
      s'.running = s.running ++ [dl] → s'.decisionHandles = s.decisionHandles.insert session dl →
      s'.llmCaches = (if dl.spec.model.toString ∈ s.llmCaches then s.llmCaches
        else s.llmCaches.insert dl.spec.model.toString dl.spec.model) →
      Staffed s s'

theorem staffed_of_engine (s : Server) (engine : WorldEngine) : Staffed s { s with engine } :=
  .kept rfl (List.Subset.refl _) fun _ _ found => found

theorem staffed_sendTo (s : Server) (session : SessionId) (msg : ActorMessage) : Staffed s (s.sendTo session msg) := by
  unfold Server.sendTo
  cases s.sessionHandles.lookup session with
  | none => exact staffed_of_engine s s.engine
  | some handle => exact staffed_of_engine s _

theorem staffed_endSession (s : Server) (session : SessionId) : Staffed s (s.endSession session) := by
  refine .kept rfl ?_ fun other dl found => ?_
  · unfold Server.endSession
    cases s.decisionHandles.lookup session with
    | none => exact List.Subset.refl _
    | some dl => exact List.erase_subset
  · change (s.decisionHandles.erase session).lookup other = some dl at found
    rw [HashMap.lookup_erase_eq] at found
    split_ifs at found
    exact found

theorem staffed_createActor (s : Server) (ord : Order) (session : SessionId) (name personality backstory : String)
    (model : LlmModel) (position : Position) (role : Option ActorRole) (faction : Option Faction) :
    Staffed s (s.createActor ord session name personality backstory model position role faction).2 := by
  unfold Server.createActor
  split_ifs
  · exact staffed_of_engine s s.engine
  · exact staffed_of_engine s s.engine
  · exact staffed_of_engine s s.engine
  · exact .hired session _ rfl rfl rfl rfl

theorem staffed_process (s : Server) (ord : Order) (cmd : EngineCommand) : Staffed s (s.process ord cmd).2 := by
  cases cmd with
  | CreateActor session name personality backstory model position role faction =>
      exact staffed_createActor s ord session name personality backstory model position role faction
  | MoveActor session dest => exact staffed_sendTo s session _
  | ChatActor session text =>
      simp only [Server.process]
      split_ifs
      · exact staffed_of_engine s s.engine
      · exact staffed_sendTo s session _
  | DestroyActor session actorId => exact staffed_endSession s session
  | SessionDisconnect session => exact staffed_endSession s session

theorem staffed_apply (s : Server) (step : ServerStep) : Staffed s (step.apply s) := by
  cases step with
  | command ord cmd => exact staffed_process s ord cmd
  | agent | directive | pump | tick => exact staffed_of_engine s _

/-! ## A whole run -/

structure Keyed (h : LoopHistory) : Prop where
  running : h.server.running ⊆ h.loops
  handles : ∀ session dl, h.server.decisionHandles.lookup session = some dl → dl ∈ h.loops ∧ dl.cacheKey.isSome
  keys : ∀ dl ∈ h.loops, ∀ key ∈ dl.cacheKey, key = dl.spec.model.toString
  caches : ∀ dl ∈ h.loops, ∀ key ∈ dl.cacheKey, h.server.llmCaches.lookup key = some dl.spec.model
  models : ∀ key model, h.server.llmCaches.lookup key = some model → key = model.toString

-- the residents have caches of their own
theorem residents_unkeyed (specs : List ActorSpec) {s : Server} (unkeyed : ∀ dl ∈ s.running, dl.cacheKey = none) :
    (specs.foldl Server.spawnResident s).decisionHandles = s.decisionHandles ∧
      (specs.foldl Server.spawnResident s).llmCaches = s.llmCaches ∧
      ∀ dl ∈ (specs.foldl Server.spawnResident s).running, dl.cacheKey = none := by
  induction specs generalizing s with
  | nil => exact ⟨rfl, rfl, unkeyed⟩
  | cons first rest ih =>
      refine ih (s := s.spawnResident first) fun dl member => ?_
      rcases List.mem_append.mp member with old | new
      · exact unkeyed dl old
      · rw [List.mem_singleton.mp new]

theorem boot_unkeyed (cfg : WorldConfig) (stored : Except SnapshotError (Option WorldSnapshot)) :
    (Server.boot cfg stored).decisionHandles = ∅ ∧ (Server.boot cfg stored).llmCaches = ∅ ∧
      ∀ dl ∈ (Server.boot cfg stored).running, dl.cacheKey = none := by
  have nobody : ∀ dl ∈ (Server.new cfg).running, dl.cacheKey = none := fun dl member => by cases member
  unfold Server.boot
  rcases stored with error | _ | snapshot
  · exact ⟨rfl, rfl, nobody⟩
  · exact residents_unkeyed _ nobody
  · exact residents_unkeyed _ nobody

theorem keyed_boot (cfg : WorldConfig) (stored : Except SnapshotError (Option WorldSnapshot)) :
    Keyed (start cfg stored) := by
  obtain ⟨handles, caches, unkeyed⟩ := boot_unkeyed cfg stored
  have none : ∀ dl ∈ (start cfg stored).loops, ∀ key, key ∉ dl.cacheKey := by
    intro dl member key
    rw [unkeyed dl member]
    exact Option.not_mem_none key
  refine ⟨List.Subset.refl _, fun session dl found => ?_, fun dl member key here => absurd here (none dl member key),
    fun dl member key here => absurd here (none dl member key), fun key model found => ?_⟩
  · change (Server.boot cfg stored).decisionHandles.lookup session = some dl at found
    rw [handles, AList.lookup_empty] at found
    cases found
  · change (Server.boot cfg stored).llmCaches.lookup key = some model at found
    rw [caches, AList.lookup_empty] at found
    cases found

theorem cache_or_insert {caches : HashMap String LlmModel}
    (models : ∀ key model, caches.lookup key = some model → key = model.toString) (model : LlmModel)
    (key : String) :
    (if model.toString ∈ caches then caches else caches.insert model.toString model).lookup key =
      if key = model.toString then some model else caches.lookup key := by
  by_cases there : model.toString ∈ caches
  · rw [if_pos there]
    split_ifs with same
    · obtain ⟨held, found⟩ := HashMap.mem_iff_lookup.mp there
      rw [same, found, toString_injective (models _ held found)]
    · rfl
  · rw [if_neg there, HashMap.lookup_insert_eq]

theorem Keyed.next (inv : Keyed h) (step : ServerStep) : Keyed (h.next step) := by
  have moved := staffed_apply h.server step
  unfold LoopHistory.next
  generalize step.apply h.server = after at moved
  cases moved with
  | kept caches running handles =>
      have known : ∀ dl ∈ h.loops ++ after.running, dl ∈ h.loops := by
        intro dl member
        rcases List.mem_append.mp member with old | now
        · exact old
        · exact inv.running (running now)
      refine ⟨List.subset_append_right _ _, fun session dl found => ?_, fun dl member => inv.keys dl (known dl member),
        fun dl member => ?_, ?_⟩
      · obtain ⟨member, some⟩ := inv.handles session dl (handles session dl found)
        exact ⟨List.mem_append_left _ member, some⟩
      · rw [caches]
        exact inv.caches dl (known dl member)
      · rw [caches]
        exact inv.models
  | hired session dl key running handles caches =>
      have lookup (k : String) := congrArg (AList.lookup k) caches
      simp only [cache_or_insert inv.models] at lookup
      have known : ∀ one ∈ h.loops ++ after.running, one ∈ h.loops ∨ one = dl := by
        intro one member
        rw [running, List.mem_append, List.mem_append, List.mem_singleton] at member
        rcases member with old | old | new
        · exact .inl old
        · exact .inl (inv.running old)
        · exact .inr new
      have mine : dl ∈ h.loops ++ after.running := by
        rw [running]
        simp
      refine ⟨List.subset_append_right _ _, fun other one found => ?_, fun one member k here => ?_,
        fun one member k here => ?_, fun k model found => ?_⟩
      · change after.decisionHandles.lookup other = some one at found
        rw [handles, HashMap.lookup_insert_eq] at found
        split_ifs at found
        · cases found
          exact ⟨mine, by rw [key]; rfl⟩
        · obtain ⟨old, some⟩ := inv.handles other one found
          exact ⟨List.mem_append_left _ old, some⟩
      · rcases known one member with old | rfl
        · exact inv.keys one old k here
        · rw [key] at here
          exact (Option.some.inj here).symm
      · change after.llmCaches.lookup k = _
        rw [lookup]
        rcases known one member with old | rfl
        · split_ifs with same
          · rw [toString_injective ((inv.keys one old k here).symm.trans same)]
          · exact inv.caches one old k here
        · rw [key] at here
          rw [if_pos (Option.some.inj here).symm]
      · change after.llmCaches.lookup k = _ at found
        rw [lookup] at found
        split_ifs at found with same
        · cases found
          exact same
        · exact inv.models k model found

theorem keyed_run (cfg : WorldConfig) (stored : Except SnapshotError (Option WorldSnapshot)) (steps : List ServerStep) :
    Keyed (steps.foldl LoopHistory.next (start cfg stored)) :=
  List.foldlRecOn steps LoopHistory.next (keyed_boot cfg stored) fun _ inv step _ => inv.next step

theorem Keyed.sharesCaches (inv : Keyed h) : SharesCaches h := by
  refine ⟨inv.handles, inv.caches, fun one first other second key mine key' theirs => ?_⟩
  rw [inv.keys one first key mine, inv.keys other second key' theirs]
  exact toString_injective.eq_iff

/-- A model is restored from its key, and the loops of one model, and no others, share a cache. -/
theorem model_keys_faithful :
    (∀ (spec : ActorSpec) (position : Position),
      ((PersistedSpec.fromSpec spec).intoSpec position).model = spec.model) ∧
    Function.Injective LlmModel.toString ∧
    ∀ (cfg : WorldConfig) (stored : Except SnapshotError (Option WorldSnapshot)) (steps : List ServerStep),
      SharesCaches (steps.foldl LoopHistory.next (start cfg stored)) :=
  ⟨fun spec _ => Recovery.model_toString spec.model, toString_injective,
    fun cfg stored steps => (keyed_run cfg stored steps).sharesCaches⟩

end LiveWorld.Proof.Models

import LiveWorld.Proof.Engine.Calls
import LiveWorld.Proof.Engine.Cells
import LiveWorld.Spec.Bounds

/-!
# The places of the world

Actors get only to the places they were born at and to those they are sent to, and the cells and the interest windows
are those of such places. The places that commands name are clamped; the places that an LLM names are not.
-/

namespace LiveWorld.Proof.Bounds
open HashTable Spec Proof.Runtime Proof.Engine
variable {engine after : WorldEngine} {s : Server}

theorem inWorld_clampToWorld (pos : Position) : pos.clampToWorld.InWorld := by
  have bounds (x : Rat) : 0 ≤ max 0 (min 9999 x) ∧ max 0 (min 9999 x) ≤ 9999 :=
    ⟨le_max_left _ _, max_le (by norm_num) (min_le_left _ _)⟩
  exact ⟨bounds pos.x, bounds pos.y⟩

/-! ## One tick of an actor -/

theorem relocate_position (cellSize : Rat) (actor : Actor) (effects : List ActorEffect) :
    (relocate cellSize actor effects).state.position = actor.state.position ∨
      ∃ mover, ActorEffect.Move mover (relocate cellSize actor effects).state.position ∈ effects := by
  induction effects generalizing actor with
  | nil => exact .inl rfl
  | cons effect rest ih =>
      cases effect with
      | Move mover dest =>
          right
          rcases ih (actor.applyMove dest (dest.toGridCell cellSize)) with here | ⟨later, member⟩
          · refine ⟨mover, List.mem_cons.mpr (.inl ?_)⟩
            exact congrArg (ActorEffect.Move mover) here
          · exact ⟨later, List.mem_cons_of_mem _ member⟩
      | _ =>
          refine (ih actor).imp_right fun moved => ?_
          obtain ⟨mover, member⟩ := moved
          exact ⟨mover, List.mem_cons_of_mem _ member⟩

/-- After a tick an actor is where it was, where it was born, or where a message has sent it. -/
theorem afterTick_position (cellSize : Rat) (tickNum : UInt64) (messages : List ActorMessage) (actor : Actor) :
    let position := (afterTick cellSize tickNum messages actor).state.position
    position = actor.state.position ∨ position = actor.spec.position ∨ .Move position ∈ messages := by
  intro position
  rcases relocate_position cellSize (drained tickNum messages actor).1 (drained tickNum messages actor).2.1 with
    same | ⟨mover, moved⟩
  · rcases drainInbox_position (actor.tick tickNum) messages with here | born
    · exact .inl (same.trans here)
    · exact .inr (.inl (same.trans born))
  · exact .inr (.inr (mem_drainInbox_move moved))

/-! ## Calls of the engine -/

def CellOf (P : Position → Prop) (cellSize : Rat) (cell : GridCell) : Prop :=
  ∃ pos, P pos ∧ pos.toGridCell cellSize = cell

/-- Actors are at places with `P`, were born at such places, and are sent only there. -/
structure Within (P : Position → Prop) (cellSize : Rat) (engine : WorldEngine) : Prop where
  wired : Wired engine.runtime
  size : engine.runtime.grid.cellSize = cellSize
  here : ∀ id actor, engine.runtime.actors.lookup id = some actor → P actor.state.position
  born : ∀ id actor, engine.runtime.actors.lookup id = some actor → P actor.spec.position
  cells : ∀ id actor, engine.runtime.actors.lookup id = some actor → CellOf P cellSize actor.state.cell
  targets : ∀ ref dest, .Move dest ∈ engine.runtime.inboxes.pending ref → P dest
  windows : ∀ session anchor cell, engine.interest.sessionAnchors.lookup session = some (anchor, cell) →
    CellOf P cellSize cell

variable {P : Position → Prop} {cellSize : Rat}

theorem within_new (cfg : WorldConfig) : Within P cfg.cellSize (WorldEngine.new cfg) := by
  refine ⟨(consistent_new cfg).toWired, rfl, fun id actor found => ?_, fun id actor found => ?_,
    fun id actor found => ?_, fun ref dest member => ?_, fun session anchor cell found => ?_⟩
  · cases found
  · cases found
  · cases found
  · cases member
  · cases found

theorem Within.fewer (inv : Within P cellSize engine) (wired : Wired after.runtime)
    (size : after.runtime.grid.cellSize = engine.runtime.grid.cellSize)
    (actors : ∀ id actor, after.runtime.actors.lookup id = some actor → engine.runtime.actors.lookup id = some actor)
    (pending : ∀ ref dest, .Move dest ∈ after.runtime.inboxes.pending ref →
      .Move dest ∈ engine.runtime.inboxes.pending ref ∨ P dest)
    (windows : ∀ session anchor cell, after.interest.sessionAnchors.lookup session = some (anchor, cell) →
      CellOf P cellSize cell) : Within P cellSize after := by
  refine ⟨wired, size.trans inv.size, fun id actor found => ?_, fun id actor found => ?_, fun id actor found => ?_,
    fun ref dest member => ?_, windows⟩
  · exact inv.here id actor (actors id actor found)
  · exact inv.born id actor (actors id actor found)
  · exact inv.cells id actor (actors id actor found)
  · exact (pending ref dest member).elim (inv.targets ref dest) fun inside => inside

theorem Within.congr (inv : Within P cellSize engine) (same : after.runtime = engine.runtime)
    (windows : ∀ session anchor cell, after.interest.sessionAnchors.lookup session = some (anchor, cell) →
      CellOf P cellSize cell) : Within P cellSize after := by
  refine inv.fewer (same ▸ inv.wired) (by rw [same]) (fun id actor found => ?_) (fun ref dest member => ?_) windows
  · rw [same] at found
    exact found
  · rw [same] at member
    exact .inl member

theorem Within.effected {allowed : ActorMessage → Prop} (inv : Within P cellSize engine)
    (effected : Effected allowed engine after) (inside : ∀ dest, allowed (.Move dest) → P dest)
    (windows : ∀ session anchor cell, after.interest.sessionAnchors.lookup session = some (anchor, cell) →
      CellOf P cellSize cell) : Within P cellSize after := by
  refine inv.fewer (effected.wired inv.wired) (by rw [effected.grid]) (fun id actor found => ?_)
    (fun ref dest member => ?_) windows
  · rw [effected.actors] at found
    exact found
  · exact (effected.pending ref _ member).imp_right (inside dest)

theorem Within.spawn (inv : Within P cellSize engine) {spec : ActorSpec} (inside : P spec.position)
    (runtime : after.runtime = (engine.runtime.spawnActor spec).2)
    (windows : ∀ session anchor cell, after.interest.sessionAnchors.lookup session = some (anchor, cell) →
      CellOf P cellSize cell) : Within P cellSize after := by
  have either (id : ActorId) (actor : Actor) (found : after.runtime.actors.lookup id = some actor) :
      actor = newborn engine.runtime spec ∨ engine.runtime.actors.lookup id = some actor := by
    rw [runtime] at found
    exact (spawnActor_either found).imp And.right And.right
  refine ⟨runtime ▸ inv.wired.spawn spec, by rw [runtime]; exact inv.size, fun id actor found => ?_,
    fun id actor found => ?_, fun id actor found => ?_, fun ref dest member => ?_, windows⟩
  · rcases either id actor found with rfl | old
    · exact inside
    · exact inv.here id actor old
  · rcases either id actor found with rfl | old
    · exact inside
    · exact inv.born id actor old
  · rcases either id actor found with rfl | old
    · exact ⟨spec.position, inside, inv.size ▸ rfl⟩
    · exact inv.cells id actor old
  · rw [runtime] at member
    change _ ∈ Function.update engine.runtime.inboxes.pending engine.runtime.inboxes.next [] ref at member
    rw [Function.update_apply] at member
    split_ifs at member
    · cases member
    · exact inv.targets ref dest member

theorem Within.spawnActorForSession (inv : Within P cellSize engine) (ord : Order) {spec : ActorSpec}
    (inside : P spec.position) (session : SessionId) :
    Within P cellSize (engine.spawnActorForSession ord spec session).2 := by
  refine inv.spawn inside rfl fun other anchor cell window => ?_
  change (engine.interest.sessionAnchors.insert _ _).lookup _ = _ at window
  rw [HashMap.lookup_insert_eq] at window
  split_ifs at window
  · have here : cell = spec.position.toGridCell engine.runtime.grid.cellSize := by
      cases window
      refine (congrArg (fun found => (Option.map ActorState.cell found).getD ⟨0, 0⟩)
        (find_snapshot (inv.wired.spawn spec) ord spec.id)).trans ?_
      rw [spawnActor_lookup, if_pos rfl]
      rfl
    exact ⟨spec.position, inside, inv.size ▸ here.symm⟩
  · exact inv.windows other anchor cell window

theorem Within.removeSession (inv : Within P cellSize engine) (session : SessionId) (despawn : Bool) :
    Within P cellSize (engine.removeSession session despawn) := by
  have windows (other : SessionId) (anchor : ActorId) (cell : GridCell)
      (window : (engine.removeSession session despawn).interest.sessionAnchors.lookup other = some (anchor, cell)) :
      CellOf P cellSize cell := by
    rw [removeSession_interest, InterestManager.unregister, HashMap.lookup_erase_eq] at window
    split_ifs at window
    exact inv.windows other anchor cell window
  rcases removeSession_runtime engine session despawn with same | ⟨gone, runtime⟩
  · exact inv.congr same windows
  · refine inv.fewer (runtime ▸ inv.wired.despawn gone) (by rw [runtime, despawnActor_cellSize])
      (fun id actor found => ?_) (fun ref dest member => ?_) windows
    · rw [runtime, despawnActor_lookup] at found
      split_ifs at found
      exact found
    · rw [runtime, despawnActor_inboxes] at member
      exact .inl member

/-! ## A tick -/

theorem Within.processEffect (inv : Within P cellSize engine) (ord : Order) (effect : ActorEffect) :
    Within P cellSize (WorldEngine.processEffect ord engine effect) := by
  refine inv.effected (effected_processEffect engine ord effect) (fun dest sent => sent.elim) ?_
  intro session anchor cell window
  cases effect with
  | Move id dest =>
      -- a window moves to where the anchor is
      change (engine.followAnchor ord id).interest.sessionAnchors.lookup session = _ at window
      rw [followAnchor_lookup inv.wired] at window
      obtain ⟨⟨anchor', cell'⟩, before, same⟩ := Option.map_eq_some_iff.mp window
      cases live : engine.runtime.actors.lookup id with
      | none =>
          simp only [live] at same
          exact inv.windows session anchor cell (same ▸ before)
      | some actor =>
          simp only [live] at same
          split_ifs at same
          · cases same
            exact inv.cells id actor live
          · exact inv.windows session anchor cell (same ▸ before)
  | Interact source target action =>
      have interest : (WorldEngine.processEffect ord engine (.Interact source target action)).interest =
          engine.interest := by
        simp only [WorldEngine.processEffect]
        split_ifs
        · exact resolveCombat_interest engine source target
        · rfl
      exact inv.windows session anchor cell (interest ▸ window)
  | Speak | Damaged | Died | LevelUp => exact inv.windows session anchor cell window

theorem Within.afterDrain (inv : Within P cellSize engine) (ord : Order) :
    Within P cellSize (afterDrain engine ord) := by
  have tick := tick_spec inv.wired ord (engine.tickCount + 1)
  have old (id : ActorId) (actor : Actor)
      (found : (Engine.afterDrain engine ord).runtime.actors.lookup id = some actor) :
      ∃ before, engine.runtime.actors.lookup id = some before ∧ nextActor engine before = actor := by
    rw [Engine.afterDrain, tick.lookup, Option.filter_eq_some_iff, Option.map_eq_some_iff] at found
    exact found.1
  refine ⟨tick.wired, tick.cellSize.trans inv.size, fun id actor found => ?_, fun id actor found => ?_,
    fun id actor found => ?_, fun ref dest member => ?_, inv.windows⟩
  · obtain ⟨before, there, rfl⟩ := old id actor found
    rcases afterTick_position engine.runtime.grid.cellSize (engine.tickCount + 1)
      (engine.runtime.inboxes.pending before.inbox) before with same | born | sent
    · exact same ▸ inv.here id before there
    · exact born ▸ inv.born id before there
    · exact inv.targets _ _ sent
  · obtain ⟨before, there, rfl⟩ := old id actor found
    have spec : (nextActor engine before).spec = before.spec := (afterTick_same engine.runtime.grid.cellSize
      (engine.tickCount + 1) (engine.runtime.inboxes.pending before.inbox) before).spec
    rw [spec]
    exact inv.born id before there
  · obtain ⟨before, there, rfl⟩ := old id actor found
    rcases afterTick_cell engine.runtime.grid.cellSize (engine.tickCount + 1)
      (engine.runtime.inboxes.pending before.inbox) before with same | ⟨dest, -, sent, cell⟩
    · exact same ▸ inv.cells id before there
    · exact ⟨dest, inv.targets _ _ sent, inv.size ▸ cell.symm⟩
  · exact inv.targets ref dest (tick.kept ref _ member)

theorem Within.applyEffects (inv : Within P cellSize engine) (ord : Order) :
    Within P cellSize (engine.applyEffects ord) :=
  List.foldlRecOn _ (WorldEngine.processEffect ord) (inv.afterDrain ord) fun _ inv effect _ =>
    inv.processEffect ord effect

theorem Within.tick (inv : Within P cellSize engine) (ord : Order) (clock : SessionId → UInt64) :
    Within P cellSize (engine.tick ord clock) := by
  have mid := inv.applyEffects ord
  have finished := finished_tick engine ord clock
  refine mid.congr finished.runtime fun session anchor cell window => ?_
  rw [finished.interest] at window
  exact mid.windows session anchor cell window

/-! ## Steps of the server -/

theorem within_residents {specs : List ActorSpec} (inv : Within P cellSize s.engine)
    (inside : ∀ spec ∈ specs, P spec.position) : Within P cellSize (specs.foldl Server.spawnResident s).engine := by
  induction specs generalizing s with
  | nil => exact inv
  | cons spec rest ih =>
      have one : Within P cellSize (s.spawnResident spec).engine := 
        inv.spawn (inside spec List.mem_cons_self) rfl inv.windows
      exact ih one fun later member => inside later (List.mem_cons_of_mem _ member)

theorem number_inside {counter : UInt64} {npcs : List (ActorId → ActorSpec)}
    (inside : ∀ npc ∈ npcs, ∀ id, (npc id).position.InWorld) :
    ∀ spec ∈ (Server.number counter npcs).1, spec.position.InWorld := by
  induction npcs generalizing counter with
  | nil => exact fun spec member => absurd member List.not_mem_nil
  | cons npc rest ih =>
      intro spec member
      rcases List.mem_cons.mp member with rfl | later
      · exact inside npc List.mem_cons_self _
      · exact ih (fun other there => inside other (List.mem_cons_of_mem _ there)) spec later

theorem residents_inside : ∀ npc ∈ Server.residents, ∀ id, (npc id).position.InWorld := by
  refine List.forall_iff_forall_mem.mp ?_
  simp only [Server.residents, List.Forall]
  and_intros <;> exact fun _ => (by decide +kernel : Position.InWorld ⟨_, _⟩)

theorem within_sendTo (inv : Within P cellSize s.engine) (session : SessionId) {msg : ActorMessage}
    (inside : ∀ dest, msg = .Move dest → P dest) : Within P cellSize (s.sendTo session msg).engine := by
  unfold Server.sendTo
  cases s.sessionHandles.lookup session with
  | none => exact inv
  | some handle =>
      exact inv.effected (effected_send s.engine handle msg) (fun dest same => inside dest same.symm) inv.windows

/-- A response makes its loop move to the place it names, or not at all. -/
theorem message_move {action : AgentAction} {myId : ActorId} {ord : Order} {snapshot : Snapshot} {dest : Position}
    (sent : AgentDecisionLoop.message myId ord snapshot action = some (.Move dest)) :
    action = .Move (.finite dest.x) (.finite dest.y) := by
  cases action with
  | Move x y =>
      cases x with
      | finite a =>
          cases y with
          | finite b =>
              cases sent
              rfl
          | _ => cases sent
      | _ => cases sent
  | Speak text => cases sent
  | Attack targetName =>
      obtain ⟨target, _, same⟩ := Option.map_eq_some_iff.mp sent
      cases same
  | Idle => cases sent

section
variable (world : ∀ pos : Position, pos.InWorld → P pos)
include world

theorem within_boot (cfg : WorldConfig) {stored : Except SnapshotError (Option WorldSnapshot)}
    (inside : ∀ snapshot, stored = .ok (some snapshot) → ∀ spec ∈ restoreActors snapshot, P spec.position) :
    Within P cfg.cellSize (Server.boot cfg stored).engine := by
  unfold Server.boot
  cases stored with
  | ok found =>
      cases found with
      | some snapshot => exact within_residents (within_new cfg) (inside snapshot rfl)
      | none =>
          refine within_residents (within_new cfg) fun spec member => ?_
          exact world _ (number_inside residents_inside spec member)
  | error failed => exact within_new cfg

theorem within_createActor (inv : Within P cellSize s.engine) (ord : Order) (session : SessionId)
    (name personality backstory : String) (model : LlmModel) (position : Position) (role : Option ActorRole)
    (faction : Option Faction) :
    Within P cellSize (s.createActor ord session name personality backstory model position role faction).2.engine := by
  let spec : ActorSpec := ⟨⟨s.nextActorId⟩, name, personality, backstory, model, position.clampToWorld,
    role.getD .default, faction.getD .default⟩
  have inside : P spec.position := world _ (inWorld_clampToWorld position)
  unfold Server.createActor
  split_ifs
  · exact inv
  · exact inv
  · exact inv
  · exact inv.spawnActorForSession ord inside session

theorem within_process (inv : Within P cellSize s.engine) (ord : Order) (cmd : EngineCommand) :
    Within P cellSize (s.process ord cmd).2.engine := by
  cases cmd with
  | CreateActor session name personality backstory model position role faction =>
      exact within_createActor world inv ord session name personality backstory model position role faction
  | MoveActor session dest =>
      refine within_sendTo inv session fun place same => ?_
      cases same
      exact world _ (inWorld_clampToWorld dest)
  | ChatActor session text =>
      simp only [Server.process]
      split_ifs
      · exact inv
      · exact within_sendTo inv session fun place same => (by cases same)
  | DestroyActor session _ | SessionDisconnect session =>
      exact inv.removeSession session true

theorem within_step (inv : Within P cellSize s.engine) {step : SystemStep} (possible : Possible s step)
    (named : ∀ loop ord snapshot text x y, step = .decision loop ord snapshot text →
      parseAction text = .Move (.finite x) (.finite y) → P ⟨x, y⟩) : Within P cellSize (step.apply s).engine := by
  cases step with
  | command ord cmd => exact within_process world inv ord cmd
  | decision loop ord snapshot text =>
      simp only [SystemStep.apply]
      cases sent : AgentDecisionLoop.message loop.spec.id ord snapshot (parseAction text) with
      | none => exact inv
      | some msg =>
          refine inv.effected (effected_send s.engine loop.handle msg) (fun dest same => ?_) inv.windows
          rw [← same] at sent
          exact named loop ord snapshot text dest.x dest.y rfl (message_move sent)
  | directive order =>
      have effected := effected_applyDirective s.engine order
      cases order with
      | ForceMove id place => exact absurd rfl (possible id place)
      | _ => exact inv.effected effected (fun dest same => by cases same) inv.windows
  | pump session =>
      refine inv.congr (drainSession_runtime s.engine session) ?_
      obtain ⟨queues, drained, -⟩ := drainSession_spec s.engine session
      simp only [SystemStep.apply, drained]
      exact inv.windows
  | tick ord clock => exact inv.tick ord clock

end

end LiveWorld.Proof.Bounds

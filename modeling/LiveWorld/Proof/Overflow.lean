import LiveWorld.Proof.Bounds
import LiveWorld.Spec.Overflow

/-!
# Windows at the end of the numbers

Cells saturate at the ends of `i32`, and a window around such a cell reaches beyond. Nobody gets to such a cell but who
is sent there by an LLM, or was there when the world was stored.
-/

namespace LiveWorld.Proof.Bounds
open HashTable Machine Spec Proof.Engine
variable {cfg : WorldConfig} {engine : WorldEngine} {s : Server}

theorem saturateI32_of_range {z : Int} (fits : FitsI32 z) : saturateI32 z = z := by
  unfold saturateI32
  rw [min_eq_right fits.2, max_eq_right fits.1]

theorem cell_inside {x : Rat} (lower : 0 ≤ x) (upper : x ≤ 9999) :
    0 ≤ saturateI32 (x / 10).floor ∧ saturateI32 (x / 10).floor ≤ 999 := by
  have least : 0 ≤ (x / 10).floor := Rat.le_floor_iff.mpr (by simpa using div_nonneg lower (by norm_num))
  have most : (x / 10).floor < 1000 := Rat.floor_lt_iff.mpr (by push_cast; linarith)
  rw [saturateI32_of_range ⟨by unfold minI32; omega, by unfold maxI32; omega⟩]
  exact ⟨least, by omega⟩

theorem roomy_of_inWorld (pos : Position) (inside : pos.InWorld) : Roomy .default pos := by
  obtain ⟨⟨left, right⟩, bottom, top⟩ := inside
  have across := cell_inside left right
  have along := cell_inside bottom top
  unfold Roomy FitsI32 minI32 maxI32
  change ((_ ≤ saturateI32 (pos.x / 10).floor - 5 ∧ saturateI32 (pos.x / 10).floor - 5 ≤ _) ∧
    _ ≤ saturateI32 (pos.x / 10).floor + 5 ∧ saturateI32 (pos.x / 10).floor + 5 ≤ _) ∧
    (_ ≤ saturateI32 (pos.y / 10).floor - 5 ∧ saturateI32 (pos.y / 10).floor - 5 ≤ _) ∧
    _ ≤ saturateI32 (pos.y / 10).floor + 5 ∧ saturateI32 (pos.y / 10).floor + 5 ≤ _
  omega

/-! ## The radius -/

theorem radius_removeSession (engine : WorldEngine) (session : SessionId) (despawn : Bool) :
    (engine.removeSession session despawn).interest.radius = engine.interest.radius := by
  rw [removeSession_interest]
  rfl

theorem radius_process (s : Server) (ord : Order) (cmd : EngineCommand) :
    (s.process ord cmd).2.engine.interest.radius = s.engine.interest.radius := by
  have sent (session : SessionId) (msg : ActorMessage) :
      (s.sendTo session msg).engine.interest.radius = s.engine.interest.radius := by
    unfold Server.sendTo
    cases s.sessionHandles.lookup session <;> rfl
  cases cmd with
  | CreateActor session name personality backstory model position role faction =>
      simp only [Server.process, Server.createActor]
      split_ifs <;> rfl
  | MoveActor session dest => exact sent session _
  | ChatActor session text =>
      simp only [Server.process]
      split_ifs
      · rfl
      · exact sent session _
  | DestroyActor session _ | SessionDisconnect session => exact radius_removeSession s.engine session true

theorem radius_step (s : Server) (step : SystemStep) :
    (step.apply s).engine.interest.radius = s.engine.interest.radius := by
  cases step with
  | command ord cmd => exact radius_process s ord cmd
  | decision loop ord snapshot text =>
      simp only [SystemStep.apply]
      split <;> rfl
  | directive order => exact (effected_applyDirective s.engine order).radius
  | pump session =>
      obtain ⟨queues, drained, -⟩ := drainSession_spec s.engine session
      simp only [SystemStep.apply, drained]
  | tick ord clock =>
      simp only [SystemStep.apply]
      rw [(finished_tick s.engine ord clock).interest]
      exact (effected_applyEffects s.engine ord).radius

theorem radius_boot (cfg : WorldConfig) (stored : Stored) :
    (Server.boot cfg stored).engine.interest.radius = cfg.interestRadius := by
  have residents (specs : List ActorSpec) (s : Server) (same : s.engine.interest.radius = cfg.interestRadius) :
      (specs.foldl Server.spawnResident s).engine.interest.radius = cfg.interestRadius := by
    induction specs generalizing s with
    | nil => exact same
    | cons spec rest ih => exact ih (s.spawnResident spec) same
  unfold Server.boot
  cases stored with
  | ok found =>
      cases found with
      | some snapshot => exact residents _ _ rfl
      | none => exact residents _ _ rfl
  | error failed => rfl

/-! ## Whole runs -/

theorem Within.queriesFit (inv : Within (Roomy cfg) cfg.cellSize engine)
    (radius : engine.interest.radius = cfg.interestRadius) (ord : Order) : QueriesFit engine ord := by
  intro session anchor center window offset reach
  obtain ⟨pos, ⟨⟨left, right⟩, bottom, top⟩, rfl⟩ := (inv.applyEffects ord).windows session anchor center window
  rw [radius, mem_rangeInclusive] at reach
  obtain ⟨least, most⟩ := reach
  unfold FitsI32 at *
  omega

theorem KeepsRoom.roomy {loop : DecisionLoop} {ord : Order} {snapshot : Snapshot} {text : String} {x y : Rat}
    (keeps : KeepsRoom cfg (.decision loop ord snapshot text))
    (named : parseAction text = .Move (.finite x) (.finite y)) : Roomy cfg ⟨x, y⟩ := by
  have place : namesRoomyPlace cfg (parseAction text) = true := keeps
  rw [named] at place
  exact of_decide_eq_true place

/-- If nobody is restored at the end of the numbers or sent there by a response, no addition overflows. -/
theorem queries_fit (stored : Stored) (restored : RestoresRoomy .default stored)
    (reachable : RunsFrom stored (fun s step => Possible s step ∧ KeepsRoom .default step) s) (ord : Order) :
    QueriesFit s.engine ord := by
  have inv : Within (Roomy .default) WorldConfig.default.cellSize s.engine ∧
      s.engine.interest.radius = WorldConfig.default.interestRadius := by
    induction reachable with
    | start first =>
        subst first
        exact ⟨within_boot roomy_of_inWorld .default restored, radius_boot .default stored⟩
    | @step before after step _ allowed moved ih =>
        cases moved
        obtain ⟨possible, keeps⟩ := allowed
        refine ⟨?_, (radius_step before step).trans ih.2⟩
        refine within_step roomy_of_inWorld ih.1 possible fun loop ord snapshot text x y same named => ?_
        subst same
        exact KeepsRoom.roomy keeps named
  exact inv.1.queriesFit inv.2 ord

def told (text : String) : Server := ((answered text).take 2).foldl SystemStep.apply emptyBoot

theorem told_possible : firstLoop ∈ ((emptyBoot.process .stored newcomer).2).running ∧ firstLoop.spec.id ∈ seen := by
  decide +kernel

theorem queries_fit_around_the_walker :
    ((told "MOVE 2000,500").engine.applyEffects .stored).interest.sessionAnchors.lookup ⟨1⟩ =
        some (⟨1⟩, ⟨200, 50⟩) ∧
      QueriesFit (told "MOVE 2000,500").engine .stored := by
  refine ⟨by decide +kernel, queries_fit (.ok (some ⟨0, 0, []⟩)) ?_ ?_ .stored⟩
  · intro snapshot same spec member
    cases same
    cases member
  · refine Transition.Reachable.foldl (.start rfl) ⟨⟨trivial, trivial⟩, ⟨told_possible, ?_⟩, trivial⟩
    change namesRoomyPlace .default (parseAction "MOVE 2000,500") = true
    decide +kernel

theorem answer_overflows :
    ¬∀ stored s, RunsFrom stored Possible s → ∀ ord, QueriesFit s.engine ord := by
  intro claim
  have reachable : RunsFrom (.ok (some ⟨0, 0, []⟩)) Possible (told "MOVE 1e30,500") :=
    Transition.Reachable.foldl (.start rfl) ⟨trivial, told_possible, trivial⟩
  have window : ((told "MOVE 1e30,500").engine.applyEffects .stored).interest.sessionAnchors.lookup ⟨1⟩ =
      some (⟨1⟩, ⟨2147483647, 50⟩) := by decide +kernel
  have fits := claim _ _ reachable .stored ⟨1⟩ ⟨1⟩ _ window 5 (by decide +kernel)
  revert fits
  decide

end LiveWorld.Proof.Bounds

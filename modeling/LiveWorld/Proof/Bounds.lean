import LiveWorld.Proof.Places

/-!
# Who stays inside the world

Everybody does, unless an LLM names a place outside.
-/

namespace LiveWorld.Proof.Bounds
open HashTable Spec Proof.Runtime Proof.Engine
variable {engine after : WorldEngine} {s : Server}

theorem Sensible.inside {loop : DecisionLoop} {ord : Order} {snapshot : Snapshot} {text : String} {x y : Rat}
    (sensible : Sensible (.decision loop ord snapshot text)) (named : parseAction text = .Move (.finite x) (.finite y)) :
    Position.InWorld ⟨x, y⟩ := by
  have place : namesPlace (parseAction text) = true := sensible
  rw [named] at place
  exact of_decide_eq_true place

/-- If no response names a place outside the world, nobody is ever outside. -/
theorem all_inside (cfg : WorldConfig)
    (reachable : SystemReachable cfg (fun s step => Possible s step ∧ Sensible step) s) : AllInside s := by
  have inv : Within Position.InWorld cfg.cellSize s.engine := by
    induction reachable with
    | start booted =>
        obtain ⟨stored, rfl, inside⟩ := booted
        exact within_boot (fun _ inside => inside) cfg inside
    | step _ allowed moved ih =>
        cases moved
        obtain ⟨possible, sensible⟩ := allowed
        refine within_step (fun _ inside => inside) ih possible fun loop ord snapshot text x y same named => ?_
        subst same
        exact Sensible.inside sensible named
  exact inv.here

/-! ## What an LLM may answer -/

def newcomer : EngineCommand := .CreateActor ⟨1⟩ "Riven" "curious" "A ranger" .Mock ⟨100, 500⟩ none none

def firstLoop : DecisionLoop :=
  ⟨⟨⟨1⟩, "Riven", "curious", "A ranger", .Mock, ⟨100, 500⟩, .default, .default⟩, ⟨⟨1⟩, 0⟩, some LlmModel.Mock.toString⟩

def seen : Snapshot :=
  (∅ : Snapshot).insert ⟨1⟩
    ⟨⟨1⟩, "Riven", ⟨100, 500⟩, ⟨10, 50⟩, 25, none, .default, .default, 80, 80, 0, 1⟩

def answered (text : String) : List SystemStep :=
  [.command .stored newcomer, .decision firstLoop .stored seen text, .tick .stored fun _ => 0]

def emptyBoot : Server := Server.boot .default (.ok (some ⟨0, 0, []⟩))

theorem booted_empty : Booted .default emptyBoot := by
  refine ⟨_, rfl, fun snapshot same spec member => ?_⟩
  cases same
  cases member

theorem all_inside_after_answer :
    let s := (answered "MOVE 2000,500").foldl SystemStep.apply emptyBoot
    (∃ entry ∈ s.engine.runtime.actors.entries, entry.2.state.position = ⟨2000, 500⟩) ∧ AllInside s := by
  intro s
  refine ⟨by decide +kernel, all_inside .default (Transition.Reachable.foldl (.start booted_empty) ?_)⟩
  refine ⟨⟨trivial, trivial⟩, ⟨?_, ?_⟩, ⟨trivial, trivial⟩, trivial⟩
  · change firstLoop ∈ ((emptyBoot.process .stored newcomer).2).running ∧ firstLoop.spec.id ∈ seen
    decide +kernel
  · change namesPlace (parseAction "MOVE 2000,500") = true
    decide +kernel

theorem answer_leads_outside : ¬∀ s, SystemReachable .default Possible s → AllInside s := by
  intro claim
  have reachable : SystemReachable .default Possible ((answered "MOVE 20000,20000").foldl SystemStep.apply emptyBoot) := by
    refine Transition.Reachable.foldl (.start booted_empty) ⟨trivial, ?_, trivial, trivial⟩
    change firstLoop ∈ ((emptyBoot.process .stored newcomer).2).running ∧ firstLoop.spec.id ∈ seen
    decide +kernel
  have outside : ∃ entry ∈ ((answered "MOVE 20000,20000").foldl SystemStep.apply emptyBoot).engine.runtime.actors.entries,
      ¬entry.2.state.position.InWorld := by decide +kernel
  obtain ⟨⟨id, actor⟩, member, away⟩ := outside
  exact away (claim _ reachable id actor (HashMap.mem_entries_iff.mp member))

end LiveWorld.Proof.Bounds

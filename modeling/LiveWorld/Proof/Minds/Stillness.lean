import LiveWorld.Lib.Padding
import LiveWorld.Proof.Engine.War
import LiveWorld.Proof.Minds.Causes
import LiveWorld.Proof.Responses

/-!
# A world of mocks stands still

Whatever a mock is told to respond, its answer begins with a bracket, and so it is no action. Then no loop sends
anything, and an engine whose inboxes are empty goes on ticking over actors that stay as they are.
-/

namespace LiveWorld.Proof.Minds
open HashTable Spec Society Proof.Engine Proof.Responses Proof.Runtime Proof.Verdicts
variable {ι β κ : Type} [DecidableEq ι] [DecidableEq β] [DecidableEq κ] {wiring : Wiring ι β κ} {ahash : Hasher}
  {setup : AgentSetup ι β κ} {cfg : WorldConfig} {a a' : Agents ι β κ} {s s' : Society ι β κ} {step : AgentStep ι}

/-! ## What a mock says -/

theorem parse_bracketed {resp : LlmResponse} (bracketed : Bracketed resp) : parseAction resp.text = .Idle := by
  obtain ⟨rest, text⟩ := bracketed
  obtain ⟨more, stripped⟩ := Padding.exists_strip_cons (rfl : isWhiteSpace '[' = false) rest
  have trimmed : (trim resp.text).toList = '[' :: more := by
    rw [trim, text, String.toList_ofList]
    exact stripped
  have move : stripPrefix "MOVE " (trim resp.text) = none := stripPrefix_bracketed rfl (by decide) trimmed
  have speak : stripPrefix "SPEAK " (trim resp.text) = none := stripPrefix_bracketed rfl (by decide) trimmed
  have attack : stripPrefix "ATTACK " (trim resp.text) = none := stripPrefix_bracketed rfl (by decide) trimmed
  simp only [parseAction, move, speak, attack, Option.bind_none]

/-- The caches and the loops have nothing but what mocks have answered. -/
structure Muttering (a : Agents ι β κ) : Prop where
  caches : ∀ k, Holds Bracketed (a.caches k)
  answers : ∀ agent resp, (a.loops agent).phase = .answered resp → ∃ r, resp = .ok r ∧ Bracketed r

theorem Muttering.next (mutters : Muttering a) (mocked : ∀ agent adapter, step = .complete agent adapter →
    ∃ response, adapter = (MockLlm.new.withResponse response).complete) (moved : a.next wiring ahash step = some a') :
    Muttering a' := by
  have elsewhere {agents : Agents ι β κ} (same : agents.loops = a.loops) (agent : ι) {loop : AgentDecisionLoop}
      (here : ∀ resp, loop.phase = .answered resp → ∃ r, resp = .ok r ∧ Bracketed r) (other : ι)
      (resp : Except LlmError LlmResponse) (answered : ((agents.setLoop agent loop).loops other).phase = .answered resp) :
      ∃ r, resp = .ok r ∧ Bracketed r := by
    change (Function.update agents.loops agent loop other).phase = .answered resp at answered
    by_cases mine : other = agent
    · subst mine
      rw [Function.update_self] at answered
      exact here resp answered
    · rw [Function.update_of_ne mine, same] at answered
      exact mutters.answers other resp answered
  cases next_moved moved with
  | @look agent ord snapshot phase =>
      refine ⟨mutters.caches, elsewhere rfl agent fun resp answered => ?_⟩
      exact absurd answered (look_not_answered _ ord snapshot resp)
  | @ask agent now req phase =>
      refine ⟨mutters.caches, elsewhere rfl agent fun resp answered => ?_⟩
      exact absurd answered (askBreaker_not_answered _ req _ resp)
  | @complete agent adapter req phase =>
      obtain ⟨response, rfl⟩ := mocked agent adapter rfl
      obtain ⟨good, kept⟩ := (mutters.caches (wiring.cache agent)).complete
        (fun resp => mock_bracketed (MockLlm.new.withResponse response) req) ahash
      constructor
      · intro k
        change Holds Bracketed (Function.update a.caches (wiring.cache agent) _ k)
        by_cases mine : k = wiring.cache agent
        · subst mine
          rw [Function.update_self]
          exact kept
        · rw [Function.update_of_ne mine]
          exact mutters.caches k
      · refine elsewhere rfl agent fun resp answered => ?_
        cases answered
        obtain ⟨r, answers⟩ := complete_answers ahash (a.caches (wiring.cache agent)) (mock_answers _ req)
        exact ⟨r, answers, good r answers⟩
  | @report agent now resp phase =>
      refine ⟨mutters.caches, elsewhere rfl agent fun resp answered => ?_⟩
      cases answered

/-! ## An engine without mail -/

def NoMail (_ : ActorSpec) (_ : ActorMessage) : Prop := False

theorem still : Governed NoMail fun own actor => own = [] → AsBorn actor where
  born rt spec _ := ⟨rfl, (born_unscathed rt spec).hp, rfl, rfl, rfl⟩
  ticked _ _ _ given nothing := ⟨(given nothing).place, (given nothing).hp, (given nothing).xp, (given nothing).level,
    (given nothing).silent⟩
  handled _ _ _ sent := sent.elim
  moved _ _ _ _ _ reported _ nothing := absurd (nothing ▸ reported) List.not_mem_nil

structure Asleep (c : Chronicle) : Prop where
  log : c.log = []
  governs : Governs NoMail (fun own actor => own = [] → AsBorn actor) [] c.world.engine

theorem nothing_reported {engine : WorldEngine} {Q : List ActorEffect → Actor → Prop} {log : List ActorEffect}
    (governs : Governs NoMail Q log engine) (ord : Order) :
    (engine.runtime.tick ord (engine.tickCount + 1)).1 = [] := by
  rw [(tick_spec governs.wired ord _).effects, List.flatMap_eq_nil_iff]
  intro ⟨id, actor⟩ listed
  have empty : engine.runtime.inboxes.pending actor.inbox = [] :=
    List.eq_nil_iff_forall_not_mem.mpr (governs.mail id actor (HashMap.mem_entries_iff.mp (ord.mem_visit.mp listed)))
  simp only [effectsOf, empty]
  rfl

theorem Asleep.next {c : Chronicle} (asleep : Asleep c) {call : EngineCall} (unsent : call.sent = none) :
    Asleep (c.next call) := by
  obtain ⟨log, governs⟩ := asleep
  cases ticks : call.isTick with
  | true =>
      cases call with
      | tick ord clock =>
          have nothing := nothing_reported governs ord
          have after := governs.afterDrain still ord
          rw [nothing] at after
          refine ⟨?_, ?_⟩
          · rw [Chronicle.next, log]
            exact nothing
          · have applied : c.world.engine.applyEffects ord = afterDrain c.world.engine ord := by
              change (c.world.engine.runtime.tick ord (c.world.engine.tickCount + 1)).1.foldl (WorldEngine.processEffect ord)
                (afterDrain c.world.engine ord) = _
              rw [nothing]
              rfl
            apply Governs.congr after
            exact (finished_tick c.world.engine ord clock).runtime.trans (congrArg WorldEngine.runtime applied)
      | _ => cases ticks
  | false =>
      refine ⟨?_, governs.timeless still (fun _ _ => rfl) (fun spec msg sent => ?_) ticks⟩
      · rw [Chronicle.next, log]
        cases call with
        | tick => cases ticks
        | _ => rfl
      · rw [unsent] at sent
        cases sent

/-! ## Whole runs -/

structure Dormant (s : Society ι β κ) : Prop where
  mutters : Muttering s.agents
  asleep : Asleep s.docket.chronicle
  errors : s.counters.llmErrorsTotal = 0

theorem Dormant.think (dormant : Dormant s) {ord : Order} {snapshot : Snapshot}
    (unattended : Unattended (.think step ord snapshot))
    (moved : s.next wiring ahash (.think step ord snapshot) = some s') : Dormant s' := by
  obtain ⟨advanced, -, counters⟩ := next_think moved
  have answered (thought : Thought) (thinks : Society.thought wiring s.agents step = some thought) :
      thought ≠ .failed ∧ ∀ text, thought = .heard text → parseAction text = .Idle := by
    cases step with
    | report agent now =>
        simp only [Society.thought] at thinks
        cases phase : (s.agents.loops agent).phase with
        | answered resp =>
            obtain ⟨r, rfl, bracketed⟩ := dormant.mutters.answers agent resp phase
            rw [phase] at thinks
            cases thinks
            refine ⟨Thought.noConfusion, fun text same => ?_⟩
            cases same
            exact parse_bracketed bracketed
        | _ =>
            rw [phase] at thinks
            cases thinks
    | look agent ord snapshot =>
        cases thinks
        exact ⟨Thought.noConfusion, fun text same => Thought.noConfusion same⟩
    | ask agent now =>
        simp only [Society.thought] at thinks
        split_ifs at thinks
        cases thinks
        exact ⟨Thought.noConfusion, fun text same => Thought.noConfusion same⟩
    | complete agent adapter => cases thinks
  refine ⟨dormant.mutters.next ?_ advanced, ?_, ?_⟩
  · rintro agent adapter rfl
    exact unattended
  · rcases (docket_think moved).2.2 with stands | ⟨text, msg, heard, -, decided, -⟩
    · rw [stands]
      exact dormant.asleep
    · rw [decision, (answered _ heard).2 text rfl] at decided
      cases decided
  · rw [counters]
    cases thinks : Society.thought wiring s.agents step with
    | none => exact dormant.errors
    | some thought =>
        cases thought with
        | failed => exact absurd rfl (answered _ thinks).1
        | _ => exact dormant.errors

theorem Dormant.abort (dormant : Dormant s) {agent : ι} (moved : s.next wiring ahash (.abort agent) = some s') :
    Dormant s' := by
  obtain ⟨others, calling, -, same⟩ := next_abort moved
  subst same
  refine ⟨⟨dormant.mutters.caches, fun other resp answered => ?_⟩, dormant.asleep, dormant.errors⟩
  by_cases mine : other = agent
  · subst mine
    rw [Society.stop, Society.remember, (loops_setLoop _ _ _).2] at answered
    cases answered
  · rw [others other mine] at answered
    exact dormant.mutters.answers other resp answered

theorem mock_world_stands_still (wiring : Wiring ι β κ) (ahash : Hasher) (setup : AgentSetup ι β κ) (cfg : WorldConfig)
    (s : Society ι β κ) (reachable : Transition.Reachable (· = Society.start setup cfg) (fun _ step => Unattended step)
      (Society.next wiring ahash) s) : s.docket.chronicle.log = [] ∧ s.counters.llmErrorsTotal = 0 ∧
    ∀ id actor, s.docket.chronicle.world.engine.runtime.actors.lookup id = some actor → AsBorn actor := by
  have dormant : Dormant s := by
    induction reachable with
    | start first =>
        subst first
        refine ⟨⟨fun k => holds_new _, fun agent resp answered => ?_⟩, ⟨rfl, governs_new cfg⟩, rfl⟩
        cases answered
    | @step s s' move before unattended moved ih =>
        cases move with
        | think step ord snapshot => exact ih.think unattended moved
        | abort agent => exact ih.abort moved
        | call call =>
            cases moved
            exact ⟨ih.mutters, ih.asleep.next unattended, ih.errors⟩
  exact ⟨dormant.asleep.log, dormant.errors, fun id actor found => dormant.asleep.governs.holds id actor found rfl⟩

/-! ## A mock that is told to move -/

def urging : List (SocietyStep Unit) :=
  .call (.spawnActorStandalone wanderer) :: thinking (visit 100 (MockLlm.new.withResponse "MOVE 2000,500").complete) ++
    [.call (.tick .stored fun _ => 0)]

def urged : Society Unit Unit Unit :=
  (Transition.run (Society.next shared lengths) (Society.start pod .default) urging).getD (Society.start pod .default)

theorem urged_stands_still :
    urged.thoughts.map Prod.snd = [.looked true, .called, .heard "[gpt-4o] MOVE 2000,500"] ∧
      ∃ actor, urged.docket.chronicle.world.engine.runtime.actors.lookup ⟨1⟩ = some actor ∧ AsBorn actor := by
  have unattended : ∀ step ∈ urging, Unattended step := by
    intro step member
    simp only [urging, thinking, visit, List.cons_append, List.map_cons, List.map_nil, List.nil_append, List.mem_cons,
      List.not_mem_nil, or_false] at member
    rcases member with rfl | rfl | rfl | rfl | rfl | rfl
    · rfl
    · trivial
    · trivial
    · exact ⟨"MOVE 2000,500", rfl⟩
    · trivial
    · rfl
  have runs : (Transition.run (Society.next shared lengths) (Society.start pod .default) urging).isSome := by
    decide +kernel
  have there : (urged.docket.chronicle.world.engine.runtime.actors.lookup ⟨1⟩).isSome := by decide +kernel
  obtain ⟨actor, found⟩ := Option.isSome_iff_exists.mp there
  have still := mock_world_stands_still shared lengths pod .default urged
    (.getD_run (.start rfl) (Transition.respects_of_mem (fun step member _ => unattended step member) _) runs)
  exact ⟨by decide +kernel, actor, found, still.2.2 ⟨1⟩ actor found⟩

end LiveWorld.Proof.Minds

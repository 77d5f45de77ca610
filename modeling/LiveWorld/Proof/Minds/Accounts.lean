import LiveWorld.Proof.Verdicts
import LiveWorld.Spec.Minds

/-!
# The accounts of the decision loops

A step of the agents moves one loop, and its thought is of that loop. So the accounts of the others stay as they are.
-/

namespace LiveWorld.Proof.Minds
open HashTable Spec Society Proof.Verdicts
variable {ι β κ : Type} [DecidableEq ι] [DecidableEq β] [DecidableEq κ] {wiring : Wiring ι β κ} {ahash : Hasher}
  {setup : AgentSetup ι β κ} {cfg : WorldConfig} {a a' : Agents ι β κ} {s s' : Society ι β κ} {step : AgentStep ι}

/-! ## One step -/

/-- What a step makes of the loop that takes it, with the thought that the loop has. -/
inductive Turn (loop : AgentDecisionLoop) : Option Thought → AgentDecisionLoop → Prop
  | present {req : LlmRequest} (waits : loop.phase = .waiting) :
      Turn loop (some (.looked true)) { loop with consecutiveMisses := 0, phase := .asking req }
  | missing (waits : loop.phase = .waiting) :
      Turn loop (some (.looked false))
        { loop with
          consecutiveMisses := loop.consecutiveMisses + 1
          phase := if loop.consecutiveMisses + 1 ≥ AgentDecisionLoop.maxMisses then .stopped else .waiting }
  | rejected {req : LlmRequest} (asks : loop.phase = .asking req) : Turn loop none { loop with phase := .waiting }
  | called {req : LlmRequest} (asks : loop.phase = .asking req) : Turn loop (some .called) { loop with phase := .admitted req }
  | answered {req : LlmRequest} {resp : Except LlmError LlmResponse} (calls : loop.phase = .admitted req) :
      Turn loop none { loop with phase := .answered resp }
  | failed {e : LlmError} (answered : loop.phase = .answered (.error e)) :
      Turn loop (some .failed) { loop with phase := .waiting }
  | heard {r : LlmResponse} (answered : loop.phase = .answered (.ok r)) :
      Turn loop (some (.heard r.text)) { loop with phase := .waiting }
  | resting (waits : loop.phase = .waiting) : Turn loop (some (.aborted false)) { loop with phase := .stopped }
  | cutOff {req : LlmRequest} (calls : loop.phase = .admitted req) :
      Turn loop (some (.aborted true)) { loop with phase := .stopped }

omit [DecidableEq β] [DecidableEq κ] in
theorem loops_setLoop (agents : Agents ι β κ) (agent : ι) (loop : AgentDecisionLoop) :
    (∀ other, other ≠ agent → (agents.setLoop agent loop).loops other = agents.loops other) ∧
      (agents.setLoop agent loop).loops agent = loop :=
  ⟨fun _ different => Function.update_of_ne different _ _, Function.update_self _ _ _⟩

theorem turn (moved : a.next wiring ahash step = some a') :
    (∀ other, other ≠ step.agent → a'.loops other = a.loops other) ∧
      Turn (a.loops step.agent) (thought wiring a step) (a'.loops step.agent) := by
  cases next_moved moved with
  | @look agent ord snapshot phase =>
      obtain ⟨others, here⟩ := loops_setLoop a agent ((a.loops agent).look ord snapshot)
      refine ⟨others, ?_⟩
      rw [AgentStep.agent, here]
      simp only [thought, AgentDecisionLoop.look]
      cases found : snapshot.lookup (a.loops agent).spec.id with
      | some state =>
          rw [decide_eq_true (HashMap.mem_of_lookup found)]
          exact .present phase
      | none =>
          rw [decide_eq_false (AList.lookup_eq_none.mp found)]
          exact .missing phase
  | @ask agent now req phase =>
      obtain ⟨others, here⟩ := loops_setLoop (a.setBreaker (wiring.breaker agent) ((a.breakers (wiring.breaker agent)).isOpen now).2)
        agent ((a.loops agent).askBreaker req ((a.breakers (wiring.breaker agent)).isOpen now).1)
      refine ⟨others, ?_⟩
      rw [AgentStep.agent, here]
      simp only [thought, AgentDecisionLoop.askBreaker]
      cases ((a.breakers (wiring.breaker agent)).isOpen now).1 with
      | true => exact .rejected phase
      | false => exact .called phase
  | @complete agent adapter req phase =>
      obtain ⟨others, here⟩ := loops_setLoop _ agent _
      refine ⟨others, ?_⟩
      rw [AgentStep.agent, here]
      exact .answered phase
  | @report agent now resp phase =>
      obtain ⟨others, here⟩ := loops_setLoop (a.setBreaker (wiring.breaker agent)
        (Agents.recordResult (a.breakers (wiring.breaker agent)) now resp)) agent { a.loops agent with phase := .waiting }
      refine ⟨others, ?_⟩
      rw [AgentStep.agent, here]
      simp only [thought, phase]
      cases resp with
      | ok r => exact .heard phase
      | error e => exact .failed phase

/-! ## One loop -/

structure Kept (loop : AgentDecisionLoop) (thoughts : List Thought) : Prop where
  misses : loop.consecutiveMisses.toNat = Society.missing thoughts
  few : Society.missing thoughts ≤ 10
  stopped : loop.phase = .stopped ↔ Society.missing thoughts = 10 ∨ thoughts.any isAborted = true
  ends : thoughts.count .called = thoughts.count .failed + thoughts.countP isHeard + thoughts.count (.aborted true) +
    inFlight loop.phase

theorem missing_append (thoughts : List Thought) (thought : Thought) :
    Society.missing (thoughts ++ [thought]) = match thought with
      | .looked true => 0
      | .looked false => Society.missing thoughts + 1
      | _ => Society.missing thoughts := by
  rw [Society.missing, List.foldl_append]
  rfl

theorem Kept.running {loop : AgentDecisionLoop} {thoughts : List Thought} (kept : Kept loop thoughts)
    (runs : loop.phase ≠ .stopped) : Society.missing thoughts < 10 ∧ thoughts.any isAborted = false := by
  obtain ⟨short, whole⟩ := not_or.mp fun ended => runs (kept.stopped.mpr ended)
  exact ⟨lt_of_le_of_ne kept.few short, Bool.eq_false_iff.mpr whole⟩

/-- A step without a look, between two phases of a loop that goes on. -/
theorem Kept.proceed {loop loop' : AgentDecisionLoop} {thoughts thoughts' : List Thought} (kept : Kept loop thoughts)
    (counted : loop'.consecutiveMisses = loop.consecutiveMisses) (same : Society.missing thoughts' = Society.missing thoughts)
    (aborted : thoughts'.any isAborted = thoughts.any isAborted) (runs : loop.phase ≠ .stopped) (runs' : loop'.phase ≠ .stopped)
    (ends : thoughts'.count .called = thoughts'.count .failed + thoughts'.countP isHeard +
      thoughts'.count (.aborted true) + inFlight loop'.phase) :
    Kept loop' thoughts' := by
  refine ⟨?_, ?_, ?_, ends⟩
  · rw [counted, same]
    exact kept.misses
  · rw [same]
    exact kept.few
  · obtain ⟨few, whole⟩ := kept.running runs
    rw [same, aborted]
    exact iff_of_false runs' (by simp [whole, few.ne])

theorem Kept.missed {loop : AgentDecisionLoop} {thoughts : List Thought} (kept : Kept loop thoughts)
    (waits : loop.phase = .waiting) :
    Kept { loop with
      consecutiveMisses := loop.consecutiveMisses + 1
      phase := if loop.consecutiveMisses + 1 ≥ AgentDecisionLoop.maxMisses then .stopped else .waiting }
      (thoughts ++ [.looked false]) := by
  have ends := kept.ends
  obtain ⟨few, whole⟩ := kept.running (waits ▸ LoopPhase.noConfusion)
  have sum : (loop.consecutiveMisses + 1).toNat = Society.missing thoughts + 1 := by
    rw [UInt32.toNat_add, kept.misses, UInt32.toNat_one]
    omega
  have enough : loop.consecutiveMisses + 1 ≥ AgentDecisionLoop.maxMisses ↔ Society.missing thoughts + 1 = 10 := by
    have ten : AgentDecisionLoop.maxMisses.toNat = 10 := rfl
    rw [ge_iff_le, UInt32.le_iff_toNat_le, sum, ten]
    omega
  rw [waits] at ends
  refine ⟨?_, ?_, ?_, ?_⟩
  · rw [missing_append]
    exact sum
  · rw [missing_append]
    change Society.missing thoughts + 1 ≤ 10
    omega
  · have unaborted : ¬(thoughts ++ [Thought.looked false]).any isAborted = true := by simp [isAborted, whole]
    rw [missing_append, or_iff_left unaborted]
    change _ ↔ Society.missing thoughts + 1 = 10
    rw [← enough]
    simp only
    by_cases late : loop.consecutiveMisses + 1 ≥ AgentDecisionLoop.maxMisses
    · rw [if_pos late]
      exact iff_of_true rfl late
    · rw [if_neg late]
      exact iff_of_false LoopPhase.noConfusion late
  · simp only
    split_ifs
    · simpa [inFlight, isHeard] using ends
    · simpa [inFlight, isHeard] using ends

theorem Kept.turn {loop loop' : AgentDecisionLoop} {thoughts : List Thought} {thought : Option Thought}
    (kept : Kept loop thoughts) (turn : Turn loop thought loop') : Kept loop' (thoughts ++ thought.toList) := by
  have ends := kept.ends
  cases turn with
  | missing waits => exact kept.missed waits
  | present waits =>
      obtain ⟨-, whole⟩ := kept.running (waits ▸ LoopPhase.noConfusion)
      rw [waits] at ends
      refine ⟨?_, ?_, ?_, ?_⟩
      · exact (missing_append thoughts (.looked true)).symm
      · rw [Option.toList_some, missing_append]
        exact Nat.zero_le _
      · rw [Option.toList_some, missing_append]
        exact iff_of_false LoopPhase.noConfusion (by simp [isAborted, whole])
      · simpa [inFlight, isHeard] using ends
  | rejected phase | called phase | answered phase | failed phase | heard phase =>
      rw [phase] at ends
      refine kept.proceed rfl ?_ ?_ ?_ LoopPhase.noConfusion ?_
      · simp [missing_append]
      · simp [isAborted]
      · rw [phase]
        exact LoopPhase.noConfusion
      · simp [inFlight, isHeard] at ends ⊢
        omega
  | resting phase | cutOff phase =>
      rw [phase] at ends
      refine ⟨?_, ?_, ?_, ?_⟩
      · simpa [missing_append] using kept.misses
      · simpa [missing_append] using kept.few
      · exact iff_of_true rfl (.inr (by simp [isAborted]))
      · simp [inFlight, isHeard] at ends ⊢
        omega

/-! ## All loops -/

theorem thoughtsOf_append (agent : ι) (thoughts : List (ι × Thought)) (thinker : ι) (thought : Option Thought) :
    thoughtsOf agent (thoughts ++ (thought.map (thinker, ·)).toList) =
      thoughtsOf agent thoughts ++ if thinker = agent then thought.toList else [] := by
  rw [thoughtsOf, List.filter_append, List.map_append]
  cases thought with
  | none => simp [thoughtsOf]
  | some thought =>
      by_cases mine : thinker = agent
      · simp [thoughtsOf, mine]
      · simp [thoughtsOf, mine]

/-- A step of the agents, as far as it concerns anything but the docket. -/
theorem next_think {ord : Order} {snapshot : Snapshot} (moved : s.next wiring ahash (.think step ord snapshot) = some s') :
    s.agents.next wiring ahash step = some s'.agents ∧
      s'.thoughts = s.thoughts ++ ((thought wiring s.agents step).map (step.agent, ·)).toList ∧
      s'.counters = (thought wiring s.agents step).elim s.counters (·.count s.counters) := by
  obtain ⟨agents, advanced, same⟩ := Option.map_eq_some_iff.mp moved
  cases thinks : thought wiring s.agents step with
  | none =>
      simp only [thinks] at same
      subst same
      exact ⟨advanced, (List.append_nil _).symm, rfl⟩
  | some thought =>
      simp only [thinks] at same
      subst same
      unfold Society.act
      split <;> exact ⟨advanced, rfl, rfl⟩

/-- What an abort does, and what it leaves alone. -/
theorem next_abort {agent : ι} (moved : s.next wiring ahash (.abort agent) = some s') :
    (∀ other, other ≠ agent → s'.agents.loops other = s.agents.loops other) ∧
      ∃ calling, Turn (s.agents.loops agent) (some (.aborted calling)) (s'.agents.loops agent) ∧ s' = s.stop agent calling := by
  simp only [Society.next] at moved
  have others (calling : Bool) := loops_setLoop s.agents agent { s.agents.loops agent with phase := .stopped }
  cases phase : (s.agents.loops agent).phase with
  | waiting =>
      rw [phase] at moved
      cases moved
      refine ⟨(others false).1, false, ?_, rfl⟩
      rw [Society.stop, Society.remember, (others false).2]
      exact .resting phase
  | admitted req =>
      rw [phase] at moved
      cases moved
      refine ⟨(others true).1, true, ?_, rfl⟩
      rw [Society.stop, Society.remember, (others true).2]
      exact .cutOff phase
  | asking | answered | stopped =>
      rw [phase] at moved
      cases moved

structure Exact (s : Society ι β κ) : Prop where
  calls : s.counters.llmCallsTotal = UInt64.ofNat (s.thoughts.countP fun entry => decide (entry.2 = .called))
  errors : s.counters.llmErrorsTotal = UInt64.ofNat (s.thoughts.countP fun entry => decide (entry.2 = .failed))

theorem Exact.think (exact : Exact s) {ord : Order} {snapshot : Snapshot}
    (moved : s.next wiring ahash (.think step ord snapshot) = some s') : Exact s' := by
  obtain ⟨-, thoughts, counters⟩ := next_think moved
  obtain ⟨calls, errors⟩ := exact
  cases thinks : thought wiring s.agents step with
  | none =>
      rw [thinks] at thoughts counters
      constructor
      · rw [counters, thoughts]
        simpa using calls
      · rw [counters, thoughts]
        simpa using errors
  | some thought =>
      rw [thinks] at thoughts counters
      constructor
      · rw [counters, thoughts]
        cases thought <;> simp [Thought.count, incLlmCalls, incLlmErrors, calls]
      · rw [counters, thoughts]
        cases thought <;> simp [Thought.count, incLlmCalls, incLlmErrors, errors]

omit [DecidableEq β] [DecidableEq κ] in
theorem Exact.abort (exact : Exact s) (agent : ι) (calling : Bool) : Exact (s.stop agent calling) := by
  obtain ⟨calls, errors⟩ := exact
  constructor
  · simpa [Society.stop, Society.remember, Thought.count] using calls
  · simpa [Society.stop, Society.remember, Thought.count] using errors

theorem accounts_are_exact (wiring : Wiring ι β κ) (ahash : Hasher) (setup : AgentSetup ι β κ) (cfg : WorldConfig)
    (s : Society ι β κ) (reachable : Society.Reachable wiring ahash setup cfg (fun _ _ => True) s) : Accounted s := by
  have both : Exact s ∧ ∀ agent, Kept (s.agents.loops agent) (thoughtsOf agent s.thoughts) := by
    induction reachable with
    | start first =>
        subst first
        refine ⟨⟨rfl, rfl⟩, fun agent => ⟨rfl, Nat.zero_le _, ?_, rfl⟩⟩
        exact iff_of_false LoopPhase.noConfusion fun ended => ended.elim (Nat.zero_ne_add_one 9) Bool.false_ne_true
    | @step s s' move before allowed moved ih =>
        obtain ⟨exact, kept⟩ := ih
        -- one loop moves, and only its thoughts are longer
        have advance (agent : ι) (thought : Option Thought)
            (thoughts : s'.thoughts = s.thoughts ++ (thought.map (agent, ·)).toList)
            (others : ∀ other, other ≠ agent → s'.agents.loops other = s.agents.loops other)
            (mine : Turn (s.agents.loops agent) thought (s'.agents.loops agent)) (other : ι) :
            Kept (s'.agents.loops other) (thoughtsOf other s'.thoughts) := by
          rw [thoughts, thoughtsOf_append]
          by_cases here : agent = other
          · subst here
            rw [if_pos rfl]
            exact (kept _).turn mine
          · rw [if_neg here, List.append_nil, others other (Ne.symm here)]
            exact kept other
        cases move with
        | call call =>
            cases moved
            exact ⟨⟨exact.calls, exact.errors⟩, kept⟩
        | think step ord snapshot =>
            obtain ⟨advanced, thoughts, -⟩ := next_think moved
            obtain ⟨others, mine⟩ := turn advanced
            exact ⟨exact.think moved, advance _ _ thoughts others mine⟩
        | abort agent =>
            obtain ⟨others, calling, mine, same⟩ := next_abort moved
            refine ⟨?_, advance agent (some (.aborted calling)) (congrArg Society.thoughts same) others mine⟩
            subst same
            exact exact.abort agent calling
  obtain ⟨exact, kept⟩ := both
  exact ⟨exact.calls, exact.errors, fun agent => (kept agent).ends, fun agent => ⟨(kept agent).few, (kept agent).stopped⟩⟩

/-! ## A scout and its last calls -/

def thinking (steps : List (AgentStep Unit)) : List (SocietyStep Unit) := steps.map (.think · .stored ∅)

-- the second call fails, and the third is cut off
def scouting : List (SocietyStep Unit) :=
  .call (.spawnActorStandalone wanderer) :: thinking (visit 100 healthy) ++ .call (.tick .stored fun _ => 0) ::
    thinking (visit 2000 broken ++ [.look () .stored (standing 2000), .ask () 0]) ++ [.abort ()]

def scouted : Society Unit Unit Unit :=
  (Transition.run (Society.next shared lengths) (Society.start pod .default) scouting).getD (Society.start pod .default)

theorem scouted_reachable {allowed : Society Unit Unit Unit → SocietyStep Unit → Prop}
    (respects : Transition.Respects allowed (Society.next shared lengths) (Society.start pod .default) scouting) :
    Society.Reachable shared lengths pod .default allowed scouted := by
  have runs : (Transition.run (Society.next shared lengths) (Society.start pod .default) scouting).isSome := by
    decide +kernel
  exact Transition.Reachable.getD_run (.start rfl) respects runs

theorem accounts_of_the_scout :
    scouted.thoughts.map Prod.snd =
        [.looked true, .called, .heard "MOVE 2000,500", .looked true, .called, .failed, .looked true, .called,
          .aborted true] ∧
      scouted.counters = ⟨3, 1, 0⟩ ∧ Accounted scouted :=
  ⟨by decide +kernel, by decide +kernel, accounts_are_exact shared lengths pod .default scouted
    (scouted_reachable (Transition.respects_of_forall (fun _ _ => trivial) _ _))⟩

end LiveWorld.Proof.Minds

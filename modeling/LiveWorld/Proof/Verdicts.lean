import LiveWorld.Proof.Breaker
import LiveWorld.Spec.Verdicts

/-!
# Where the verdicts of a breaker come from

The breaker is asked before the cache is, so a success that is reported to it may be the cache's.
-/

namespace LiveWorld.Proof.Verdicts
open HashTable Spec Agents
variable {ι β κ : Type} {breaker : CircuitBreaker} {cache : SemanticCache} {ahash : Hasher} {req : LlmRequest} {now : Nat}

/-! ## The cache -/

theorem complete_cached (adapter : LlmRequest → Except LlmError LlmResponse)
    (cached : hashRequest ahash req ∈ cache.entries) :
    (cache.complete ahash adapter req).calledAdapter = false ∧
      ∃ resp, (cache.complete ahash adapter req).result = .ok resp := by
  obtain ⟨resp, found⟩ := HashMap.lookup_of_mem cached
  rw [SemanticCache.complete, found]
  exact ⟨rfl, resp, rfl⟩

theorem complete_uncached (adapter : LlmRequest → Except LlmError LlmResponse)
    (missing : hashRequest ahash req ∉ cache.entries) :
    (cache.complete ahash adapter req).calledAdapter = true ∧
      (cache.complete ahash adapter req).result = adapter req := by
  rw [SemanticCache.complete, AList.lookup_eq_none.mpr missing]
  cases adapter req with
  | ok resp => exact ⟨rfl, rfl⟩
  | error e => exact ⟨rfl, rfl⟩

/-! ## The count of failures -/

def Counted (breaker : CircuitBreaker) : Prop :=
  ∀ n, breaker.state = .Closed n → n = 0 ∨ n < breaker.failureThreshold

theorem counted_isOpen (inv : Counted breaker) (now : Nat) : Counted (breaker.isOpen now).2 := by
  rcases Breaker.open_or_not breaker with ⟨openedAt, state⟩ | other
  · rw [Breaker.isOpen_open state]
    split_ifs
    · intro n same
      cases same
    · exact inv
  · rw [Breaker.isOpen_other other]
    exact inv

theorem counted_recordSuccess (breaker : CircuitBreaker) : Counted breaker.recordSuccess := by
  intro n same
  exact .inl (BreakerState.Closed.inj same).symm

theorem counted_recordFailure (inv : Counted breaker) (now : Nat) : Counted (breaker.recordFailure now) := by
  unfold CircuitBreaker.recordFailure
  cases state : breaker.state with
  | Closed n =>
      simp only
      split_ifs with many
      · intro m same
        cases same
      · intro m same
        cases same
        exact .inr (UInt32.not_le.mp many)
  | Open openedAt => exact inv
  | HalfOpen =>
      intro m same
      cases same

-- the count does not wrap
theorem recordFailure_not_verdict (inv : Counted breaker) (now : Nat) :
    ¬Verdict breaker.state (breaker.recordFailure now).state := by
  rintro ⟨before, after⟩
  unfold CircuitBreaker.recordFailure at after
  cases state : breaker.state with
  | Closed n =>
      simp only [state] at after
      split_ifs at after with many
      have wrapped : n + 1 = 0 := BreakerState.Closed.inj after
      rcases inv n state with zero | few
      · rw [zero] at wrapped
        exact absurd wrapped (by decide)
      · have small := UInt32.toNat_lt breaker.failureThreshold
        have number := congrArg UInt32.toNat wrapped
        rw [UInt32.lt_iff_toNat_lt] at few
        rw [UInt32.toNat_add, UInt32.toNat_one, UInt32.toNat_zero, Nat.mod_eq_of_lt (by omega)] at number
        omega
  | Open openedAt =>
      simp only [state] at after
      cases after
  | HalfOpen =>
      simp only [state] at after
      cases after

theorem isOpen_not_verdict (breaker : CircuitBreaker) (now : Nat) :
    ¬Verdict breaker.state (breaker.isOpen now).2.state := by
  rintro ⟨before, after⟩
  rcases Breaker.open_or_not breaker with ⟨openedAt, state⟩ | other
  · rw [Breaker.isOpen_open state] at after
    split_ifs at after
    exact before after
  · rw [Breaker.isOpen_other other] at after
    exact before after

theorem verdict_recordSuccess : Verdict breaker.state breaker.recordSuccess.state ↔ breaker.state ≠ .Closed 0 :=
  and_iff_left rfl

/-! ## One step -/

variable [DecidableEq ι] [DecidableEq β] [DecidableEq κ] {wiring : Wiring ι β κ} {s s' : Agents ι β κ}
  {step : AgentStep ι}

/-- The cache answers what it has, and the adapter what the cache has not. -/
def Sourced (record : DecisionRecord) (resp : Except LlmError LlmResponse) : Prop :=
  (record.cached = true → record.backend = none ∧ ∃ r, resp = .ok r) ∧
    (record.cached = false → record.backend = some resp)

structure Recorded (s : Agents ι β κ) : Prop where
  counted : ∀ b, Counted (s.breakers b)
  sourced : ∀ agent resp, (s.loops agent).phase = .answered resp → Sourced (s.records agent) resp

inductive Moved (wiring : Wiring ι β κ) (ahash : Hasher) (s : Agents ι β κ) : AgentStep ι → Agents ι β κ → Prop
  | look {agent : ι} {ord : Order} {snapshot : Snapshot} (phase : (s.loops agent).phase = .waiting) :
      Moved wiring ahash s (.look agent ord snapshot) (s.setLoop agent ((s.loops agent).look ord snapshot))
  | ask {agent : ι} {now : Nat} {req : LlmRequest} (phase : (s.loops agent).phase = .asking req) :
      Moved wiring ahash s (.ask agent now)
        ((s.setBreaker (wiring.breaker agent) ((s.breakers (wiring.breaker agent)).isOpen now).2).setLoop agent
          ((s.loops agent).askBreaker req ((s.breakers (wiring.breaker agent)).isOpen now).1))
  | complete {agent : ι} {adapter : LlmRequest → Except LlmError LlmResponse} {req : LlmRequest}
      (phase : (s.loops agent).phase = .admitted req) :
      Moved wiring ahash s (.complete agent adapter)
        ({ s with
          caches := Function.update s.caches (wiring.cache agent)
            ((s.caches (wiring.cache agent)).complete ahash adapter req).cache
          records := Function.update s.records agent
            ⟨decide (hashRequest ahash req ∈ (s.caches (wiring.cache agent)).entries),
              if ((s.caches (wiring.cache agent)).complete ahash adapter req).calledAdapter then some (adapter req)
              else none⟩ }.setLoop agent
          { s.loops agent with
            phase := .answered ((s.caches (wiring.cache agent)).complete ahash adapter req).result })
  | report {agent : ι} {now : Nat} {resp : Except LlmError LlmResponse}
      (phase : (s.loops agent).phase = .answered resp) :
      Moved wiring ahash s (.report agent now)
        ((s.setBreaker (wiring.breaker agent) (recordResult (s.breakers (wiring.breaker agent)) now resp)).setLoop agent
          { s.loops agent with phase := .waiting })

theorem next_moved (moved : s.next wiring ahash step = some s') : Moved wiring ahash s step s' := by
  cases step with
  | look agent ord snapshot =>
      simp only [Agents.next] at moved
      split at moved
      · cases moved
        exact .look ‹_›
      · cases moved
  | ask agent now =>
      simp only [Agents.next] at moved
      split at moved
      · cases moved
        exact .ask ‹_›
      · cases moved
  | complete agent adapter =>
      simp only [Agents.next] at moved
      split at moved
      · cases moved
        exact .complete ‹_›
      · cases moved
  | report agent now =>
      simp only [Agents.next] at moved
      split at moved
      · cases moved
        exact .report ‹_›
      · cases moved

theorem look_not_answered (loop : AgentDecisionLoop) (ord : Order) (snapshot : Snapshot)
    (resp : Except LlmError LlmResponse) : (loop.look ord snapshot).phase ≠ .answered resp := by
  unfold AgentDecisionLoop.look
  cases snapshot.lookup loop.spec.id with
  | some state => exact fun same => by cases same
  | none =>
      simp only
      split_ifs <;> exact fun same => by cases same

theorem askBreaker_not_answered (loop : AgentDecisionLoop) (req : LlmRequest) (rejected : Bool)
    (resp : Except LlmError LlmResponse) : (loop.askBreaker req rejected).phase ≠ .answered resp := by
  cases rejected with
  | true => exact fun same => by cases same
  | false => exact fun same => by cases same

theorem counted_set {breakers : β → CircuitBreaker} (inv : ∀ b, Counted (breakers b)) {b : β} {new : CircuitBreaker}
    (counted : Counted new) (other : β) : Counted (Function.update breakers b new other) := by
  rw [Function.update_apply]
  split_ifs
  · exact counted
  · exact inv other

-- a loop that has no answer needs no record
theorem sourced_set {loops : ι → AgentDecisionLoop} {records : ι → DecisionRecord}
    (inv : ∀ agent resp, (loops agent).phase = .answered resp → Sourced (records agent) resp) {agent : ι}
    {loop : AgentDecisionLoop} (unanswered : ∀ resp, loop.phase ≠ .answered resp) (other : ι)
    (resp : Except LlmError LlmResponse) (phase : (Function.update loops agent loop other).phase = .answered resp) :
    Sourced (records other) resp := by
  rw [Function.update_apply] at phase
  split_ifs at phase
  · exact absurd phase (unanswered resp)
  · exact inv other resp phase

theorem sourced_complete (cache : SemanticCache) (ahash : Hasher) (adapter : LlmRequest → Except LlmError LlmResponse)
    (req : LlmRequest) :
    Sourced
      ⟨decide (hashRequest ahash req ∈ cache.entries),
        if (cache.complete ahash adapter req).calledAdapter then some (adapter req) else none⟩
      (cache.complete ahash adapter req).result := by
  by_cases cached : hashRequest ahash req ∈ cache.entries
  · obtain ⟨silent, answer⟩ := complete_cached adapter cached
    refine ⟨fun _ => ⟨?_, answer⟩, fun missing => absurd cached (of_decide_eq_false missing)⟩
    rw [silent]
    rfl
  · obtain ⟨called, answer⟩ := complete_uncached adapter cached
    refine ⟨fun there => absurd (of_decide_eq_true there) cached, fun _ => ?_⟩
    rw [called, answer]
    rfl

theorem Recorded.next (inv : Recorded s) (moved : s.next wiring ahash step = some s') : Recorded s' := by
  cases next_moved moved with
  | look phase => exact ⟨inv.counted, sourced_set inv.sourced (look_not_answered _ _ _)⟩
  | ask phase =>
      exact ⟨counted_set inv.counted (counted_isOpen (inv.counted _) _),
        sourced_set inv.sourced (askBreaker_not_answered _ _ _)⟩
  | @complete agent adapter req phase =>
      refine ⟨inv.counted, fun other resp answered => ?_⟩
      change (Function.update s.loops agent _ other).phase = _ at answered
      change Sourced (Function.update s.records agent _ other) resp
      by_cases same : other = agent
      · subst same
        rw [Function.update_self] at answered ⊢
        cases answered
        exact sourced_complete _ ahash adapter req
      · rw [Function.update_of_ne same] at answered ⊢
        exact inv.sourced other resp answered
  | @report agent now resp phase =>
      refine ⟨counted_set inv.counted ?_, sourced_set inv.sourced fun _ same => by cases same⟩
      cases resp with
      | ok r => exact counted_recordSuccess _
      | error e => exact counted_recordFailure (inv.counted _) now

/-! ## Whole runs -/

theorem not_verdict_refl (state : BreakerState) : ¬Verdict state state := fun verdict => verdict.1 verdict.2

theorem verdict_set {breakers : β → CircuitBreaker} {b other : β} {new : CircuitBreaker}
    (verdict : Verdict (breakers other).state (Function.update breakers b new other).state) :
    b = other ∧ Verdict (breakers b).state new.state := by
  rw [Function.update_apply] at verdict
  split_ifs at verdict with same
  · exact ⟨same.symm, same ▸ verdict⟩
  · exact absurd verdict (not_verdict_refl _)

theorem fromBackend_iff (inv : Recorded s) (step : AgentStep ι) :
    FromBackend wiring ahash s step ↔ CacheUnheard wiring s step := by
  constructor
  · intro honest agent now resp equal answered cached
    subst equal
    obtain ⟨silent, r, rfl⟩ := (inv.sourced agent resp answered).1 cached
    by_contra counting
    have moved : s.next wiring ahash (.report agent now) =
        some ((s.setBreaker (wiring.breaker agent) (s.breakers (wiring.breaker agent)).recordSuccess).setLoop agent
          { s.loops agent with phase := .waiting }) := by
      simp only [Agents.next, answered, recordResult]
    have verdict : Verdict (s.breakers (wiring.breaker agent)).state
        (Function.update s.breakers (wiring.breaker agent) (s.breakers (wiring.breaker agent)).recordSuccess
          (wiring.breaker agent)).state := by
      rw [Function.update_self]
      exact verdict_recordSuccess.mpr counting
    obtain ⟨other, time, resp, same, -, called⟩ := honest _ moved (wiring.breaker agent) verdict
    cases same
    rw [silent] at called
    cases called
  · intro unheard after moved b verdict
    cases next_moved moved with
    | look phase => exact absurd verdict (not_verdict_refl _)
    | complete phase => exact absurd verdict (not_verdict_refl _)
    | ask phase => exact absurd (verdict_set verdict).2 (isOpen_not_verdict _ _)
    | @report agent now resp phase =>
        obtain ⟨mine, verdict⟩ := verdict_set verdict
        cases resp with
        | error e => exact absurd verdict (recordFailure_not_verdict (inv.counted _) now)
        | ok r =>
            refine ⟨agent, now, r, rfl, mine, ?_⟩
            have missed : (s.records agent).cached = false := by
              rw [← Bool.not_eq_true]
              exact fun cached => verdict.1 (unheard agent now _ rfl phase cached)
            exact (inv.sourced agent _ phase).2 missed

omit [DecidableEq ι] [DecidableEq β] [DecidableEq κ] in
theorem recorded_start (setup : AgentSetup ι β κ) : Recorded (start setup) := by
  refine ⟨fun b n same => .inl (BreakerState.Closed.inj same).symm, fun agent resp phase => ?_⟩
  cases phase

/-- The verdicts of a run are the backend's iff no answer of a cache is reported while failures are counted. -/
theorem verdicts_from_backend_iff (wiring : Wiring ι β κ) (ahash : Hasher) (setup : AgentSetup ι β κ)
    (steps : List (AgentStep ι)) :
    Transition.Respects (FromBackend wiring ahash) (Agents.next wiring ahash) (start setup) steps ↔
      Transition.Respects (CacheUnheard wiring) (Agents.next wiring ahash) (start setup) steps :=
  Transition.respects_congr (fun _ step inv => fromBackend_iff inv step) (fun _ _ _ inv moved => Recorded.next inv moved)
    (recorded_start setup) steps

/-! ## A verdict of the cache -/

def wanderer : ActorSpec :=
  ⟨⟨1⟩, "Riven the Scout", "quick-witted", "Ranger of the southern plains", .Gpt4o, ⟨100, 500⟩, .Wanderer, .Alliance⟩

def standing (x : Rat) : Snapshot :=
  (∅ : Snapshot).insert ⟨1⟩
    ⟨⟨1⟩, "Riven the Scout", ⟨x, 500⟩, ⟨0, 0⟩, 1, none, .Wanderer, .Alliance, 80, 80, 0, 1⟩

def pod : AgentSetup Unit Unit Unit where
  failureThreshold _ := 5
  resetTimeout _ := 30
  capacity _ := 256
  spec _ := wanderer
  handle _ := ⟨⟨1⟩, 0⟩

def shared : Wiring Unit Unit Unit := ⟨id, id⟩

def lengths : Hasher := fun texts => UInt64.ofNat (texts.getLast?.elim 0 String.length)

def healthy : LlmRequest → Except LlmError LlmResponse := fun _ => .ok ⟨"MOVE 2000,500", .Gpt4o, 12⟩

def broken : LlmRequest → Except LlmError LlmResponse := fun _ => .error "connection refused"

def visit (x : Rat) (adapter : LlmRequest → Except LlmError LlmResponse) : List (AgentStep Unit) :=
  [.look () .stored (standing x), .ask () 0, .complete () adapter, .report () 0]

-- back at its first place, the agent asks what it has asked there before
def thereAndBack : List (AgentStep Unit) := visit 100 healthy ++ visit 2000 broken ++ visit 100 broken

theorem cache_resets_the_count :
    ¬∀ steps, (Transition.run (Agents.next shared lengths) (start pod) steps).isSome →
      Transition.Respects (FromBackend shared lengths) (Agents.next shared lengths) (start pod) steps := by
  intro claim
  have honest := claim thereAndBack (by decide +kernel)
  have unheard : Transition.Respects (CacheUnheard shared) (Agents.next shared lengths) (start pod) thereAndBack :=
    (Transition.respects_congr (fun _ step inv => fromBackend_iff inv step)
      (fun _ _ _ inv moved => Recorded.next inv moved) (recorded_start pod) thereAndBack).mp honest
  revert unheard
  decide +kernel

end LiveWorld.Proof.Verdicts

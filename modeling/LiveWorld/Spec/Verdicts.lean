import LiveWorld.AgentDecision
import LiveWorld.Lib.Transition

/-!
# Agents that share breakers and caches

Any number of decision loops run side by side. A record is kept of where each of them has its answer from.
-/

namespace LiveWorld.Spec
open HashTable
variable {ι β κ : Type} [DecidableEq ι] [DecidableEq β] [DecidableEq κ]

structure Wiring (ι β κ : Type) where
  breaker : ι → β
  cache : ι → κ

structure DecisionRecord where
  /-- whether the cache had the request when it was asked -/
  cached : Bool
  /-- what the adapter answered, if it was called -/
  backend : Option (Except LlmError LlmResponse)

structure Agents (ι β κ : Type) where
  breakers : β → CircuitBreaker
  caches : κ → SemanticCache
  loops : ι → AgentDecisionLoop
  records : ι → DecisionRecord

inductive AgentStep (ι : Type) : Type 1
  | look (agent : ι) (ord : Order) (snapshot : Snapshot)
  | ask (agent : ι) (now : Nat)
  | complete (agent : ι) (adapter : LlmRequest → Except LlmError LlmResponse)
  | report (agent : ι) (now : Nat)

/-- What the agents start with. -/
structure AgentSetup (ι β κ : Type) where
  failureThreshold : β → UInt32
  resetTimeout : β → Nat
  capacity : κ → Nat
  spec : ι → ActorSpec
  handle : ι → ActorHandle

namespace Agents

def start (setup : AgentSetup ι β κ) : Agents ι β κ where
  breakers b := .new (setup.failureThreshold b) (setup.resetTimeout b)
  caches k := .new (setup.capacity k)
  loops agent := .new (setup.spec agent) (setup.handle agent)
  records _ := ⟨false, none⟩

def setLoop (s : Agents ι β κ) (agent : ι) (loop : AgentDecisionLoop) : Agents ι β κ :=
  { s with loops := Function.update s.loops agent loop }

def setBreaker (s : Agents ι β κ) (b : β) (breaker : CircuitBreaker) : Agents ι β κ :=
  { s with breakers := Function.update s.breakers b breaker }

def recordResult (breaker : CircuitBreaker) (now : Nat) : Except LlmError LlmResponse → CircuitBreaker
  | .ok _ => breaker.recordSuccess
  | .error _ => breaker.recordFailure now

def next (wiring : Wiring ι β κ) (ahash : Hasher) (s : Agents ι β κ) : AgentStep ι → Option (Agents ι β κ)
  | .look agent ord snapshot =>
      match (s.loops agent).phase with
      | .waiting => some (s.setLoop agent ((s.loops agent).look ord snapshot))
      | _ => none
  | .ask agent now =>
      match (s.loops agent).phase with
      | .asking req =>
          let b := wiring.breaker agent
          let (rejected, breaker) := (s.breakers b).isOpen now
          some ((s.setBreaker b breaker).setLoop agent ((s.loops agent).askBreaker req rejected))
      | _ => none
  | .complete agent adapter =>
      match (s.loops agent).phase with
      | .admitted req =>
          let k := wiring.cache agent
          let completion := (s.caches k).complete ahash adapter req
          some ({ s with
            caches := Function.update s.caches k completion.cache
            records := Function.update s.records agent
              ⟨decide (hashRequest ahash req ∈ (s.caches k).entries),
                if completion.calledAdapter then some (adapter req) else none⟩ }.setLoop agent
            { s.loops agent with phase := .answered completion.result })
      | _ => none
  | .report agent now =>
      match (s.loops agent).phase with
      | .answered resp =>
          let b := wiring.breaker agent
          some ((s.setBreaker b (recordResult (s.breakers b) now resp)).setLoop agent
            { s.loops agent with phase := .waiting })
      | _ => none

/-- The breaker closes, or forgets the failures it has counted. -/
def Verdict (before after : BreakerState) : Prop := before ≠ .Closed 0 ∧ after = .Closed 0

/-- A verdict is given by a decision whose call of the adapter went well. -/
def FromBackend (wiring : Wiring ι β κ) (ahash : Hasher) (s : Agents ι β κ) (step : AgentStep ι) : Prop :=
  ∀ after, s.next wiring ahash step = some after → ∀ b, Verdict (s.breakers b).state (after.breakers b).state →
    ∃ agent now resp, step = .report agent now ∧ wiring.breaker agent = b ∧
      (s.records agent).backend = some (.ok resp)

/-- Who was answered by the cache reports to a breaker that is closed and has counted no failure. -/
def CacheUnheard (wiring : Wiring ι β κ) (s : Agents ι β κ) (step : AgentStep ι) : Prop :=
  ∀ agent now resp, step = .report agent now → (s.loops agent).phase = .answered resp →
    (s.records agent).cached = true → (s.breakers (wiring.breaker agent)).state = .Closed 0

instance (wiring : Wiring ι β κ) (s : Agents ι β κ) (step : AgentStep ι) : Decidable (CacheUnheard wiring s step) :=
  match step with
  | .report agent _ =>
      match phase : (s.loops agent).phase with
      | .answered resp =>
          decidable_of_iff
            ((s.records agent).cached = true → (s.breakers (wiring.breaker agent)).state = .Closed 0) (by
              constructor
              · rintro quiet _ _ _ ⟨⟩ - cached
                exact quiet cached
              · intro quiet cached
                exact quiet agent _ resp rfl phase cached)
      | .waiting | .asking _ | .admitted _ | .stopped =>
          .isTrue (by
            rintro _ _ _ ⟨⟩ answered
            rw [phase] at answered
            cases answered)
  | .look _ _ _ | .ask _ _ | .complete _ _ => .isTrue (by rintro _ _ _ ⟨⟩)

end Agents

end LiveWorld.Spec

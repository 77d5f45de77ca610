import LiveWorld.AgentDecision
import LiveWorld.LlmAdapter

/-!
# What a cache answers

A property of everything that a backend answers is one of everything that a cache before it answers.
-/

namespace LiveWorld.Proof.Responses
open HashTable
variable {P : LlmResponse → Prop} {cache : SemanticCache}

def Holds (P : LlmResponse → Prop) (cache : SemanticCache) : Prop :=
  ∀ key resp, cache.entries.lookup key = some resp → P resp

theorem holds_new (capacity : Nat) : Holds P (.new capacity) := by
  intro key resp found
  exact absurd (HashMap.mem_of_lookup found) (AList.notMem_empty key)

theorem Holds.evict (holds : Holds P cache) : Holds P cache.evict := by
  unfold SemanticCache.evict
  cases cache.lruOrder.getLast? with
  | none => exact holds
  | some evicted =>
      intro key resp found
      rw [HashMap.lookup_erase_eq] at found
      split_ifs at found
      exact holds key resp found

theorem Holds.insert (holds : Holds P cache) (key : UInt64) {resp : LlmResponse} (good : P resp) :
    Holds P (cache.insert key resp) := by
  have kept : Holds P (if HashMap.size cache.entries ≥ cache.capacity then cache.evict else cache) := by
    split_ifs
    · exact holds.evict
    · exact holds
  intro other found stored
  simp only [SemanticCache.insert, HashMap.lookup_insert_eq] at stored
  by_cases here : other = key
  · rw [if_pos here] at stored
    cases stored
    exact good
  · rw [if_neg here] at stored
    exact kept other found stored

theorem Holds.complete (holds : Holds P cache) {backend : Backend} {req : LlmRequest}
    (good : ∀ resp, backend req = .ok resp → P resp) (ahash : Hasher) :
    (∀ resp, (cache.complete ahash backend req).result = .ok resp → P resp) ∧
      Holds P (cache.complete ahash backend req).cache := by
  cases found : cache.entries.lookup (hashRequest ahash req) with
  | some cached =>
      simp only [SemanticCache.complete, found]
      constructor
      · intro resp answered
        cases answered
        exact holds _ _ found
      · intro key resp stored
        simp only [SemanticCache.touch] at stored
        split_ifs at stored <;> exact holds key resp stored
  | none =>
      simp only [SemanticCache.complete, found]
      cases answer : backend req with
      | error e =>
          refine ⟨fun resp answered => ?_, holds⟩
          cases answered
      | ok resp =>
          refine ⟨fun other answered => ?_, ?_⟩
          · cases answered
            exact good _ answer
          · have missed : Holds P { cache with misses := cache.misses + 1 } := holds
            exact missed.insert _ (good _ answer)

theorem complete_answers (ahash : Hasher) (cache : SemanticCache) {backend : Backend} {req : LlmRequest}
    (answers : ∃ resp, backend req = .ok resp) : ∃ resp, (cache.complete ahash backend req).result = .ok resp := by
  obtain ⟨resp, answered⟩ := answers
  cases found : cache.entries.lookup (hashRequest ahash req) with
  | some cached => exact ⟨cached, by simp only [SemanticCache.complete, found]⟩
  | none => exact ⟨resp, by simp only [SemanticCache.complete, found, answered]⟩

/-! ## A mock -/

/-- The name of the model comes in brackets before the response. -/
def Bracketed (resp : LlmResponse) : Prop := ∃ rest, resp.text.toList = '[' :: rest

theorem mock_bracketed (llm : MockLlm) (req : LlmRequest) {resp : LlmResponse} (answered : llm.complete req = .ok resp) :
    Bracketed resp := by
  cases answered
  exact ⟨(req.model.toString ++ "] " ++ llm.responseTemplate).toList, by simp [String.toList_append]⟩

theorem mock_answers (llm : MockLlm) (req : LlmRequest) : ∃ resp, llm.complete req = .ok resp := ⟨_, rfl⟩

theorem stripPrefix_bracketed {front text : String} {c : Char} {word rest : List Char}
    (starts : front.toList = c :: word) (other : c ≠ '[') (bracketed : text.toList = '[' :: rest) :
    stripPrefix front text = none := by
  rw [stripPrefix, starts, bracketed, List.isPrefixOf, beq_eq_false_iff_ne.mpr other]
  rfl

end LiveWorld.Proof.Responses

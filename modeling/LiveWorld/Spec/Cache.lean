import LiveWorld.Lib.Recency
import LiveWorld.SemanticCache

/-!
# The cache as a map of the most recently used keys

A log is kept beside the cache: the keys of the requests that were answered, the last at the end, and what the backend
has answered, the last at the front.
-/

namespace LiveWorld.Spec
open HashTable

structure CacheCall where
  req : LlmRequest
  adapter : LlmRequest → Except LlmError LlmResponse

structure LoggedCache where
  cache : SemanticCache
  uses : List UInt64
  stored : List (UInt64 × LlmResponse)

namespace LoggedCache

def new (capacity : Nat) : LoggedCache := ⟨.new capacity, [], []⟩

def complete (ahash : Hasher) (s : LoggedCache) (call : CacheCall) : LoggedCache :=
  let key := hashRequest ahash call.req
  let done := s.cache.complete ahash call.adapter call.req
  { cache := done.cache
    uses := if done.result.isOk then s.uses ++ [key] else s.uses
    stored :=
      match done.calledAdapter, call.adapter call.req with
      | true, .ok resp => (key, resp) :: s.stored
      | _, _ => s.stored }

def completeAll (ahash : Hasher) (capacity : Nat) (calls : List CacheCall) : LoggedCache :=
  calls.foldl (complete ahash) (new capacity)

end LoggedCache

variable (ahash : Hasher) (capacity : Nat) (s : LoggedCache)

structure IsLru : Prop where
  same_keys : ∀ key, key ∈ s.cache.entries ↔ key ∈ s.cache.lruOrder
  distinct : s.cache.lruOrder.Nodup
  bounded : s.cache.lruOrder.length ≤ capacity
  recent : s.cache.lruOrder = (Recency.order s.uses).take capacity
  held : ∀ call : CacheCall, hashRequest ahash call.req ∈ s.cache.entries →
    ∃ resp, s.stored.lookup (hashRequest ahash call.req) = some resp ∧
      (s.cache.complete ahash call.adapter call.req).result = .ok resp ∧
      (s.cache.complete ahash call.adapter call.req).calledAdapter = false
  failed : ∀ (call : CacheCall) (e : LlmError), hashRequest ahash call.req ∉ s.cache.entries →
    call.adapter call.req = .error e →
    (s.cache.complete ahash call.adapter call.req).cache.entries = s.cache.entries ∧
      (s.cache.complete ahash call.adapter call.req).cache.lruOrder = s.cache.lruOrder

def CountsAll (calls : Nat) : Prop := s.cache.hits.toNat + s.cache.misses.toNat = calls

end LiveWorld.Spec

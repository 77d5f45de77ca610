import LiveWorld.Types

/-!
# The cache of LLM responses

`ahash` stands for the hasher of the ahash crate. The lock around a cache is held while the adapter works, so a
completion is one step; what the adapter would answer is an argument of it.
-/

namespace LiveWorld
open HashTable

structure LlmRequest where
  model : LlmModel
  systemPrompt : String
  userPrompt : String
  maxTokens : UInt32
  deriving DecidableEq, Repr

structure LlmResponse where
  text : String
  model : LlmModel
  tokensUsed : UInt32
  deriving DecidableEq, Repr

/-- `anyhow::Error`, of which only the text is ever used. -/
abbrev LlmError := String

abbrev Hasher := List String → UInt64

def hashRequest (ahash : Hasher) (req : LlmRequest) : UInt64 :=
  ahash [req.model.toString, req.systemPrompt, req.userPrompt]

structure SemanticCache where
  capacity : Nat
  entries : HashMap UInt64 LlmResponse
  lruOrder : List UInt64
  hits : UInt64
  misses : UInt64

/-- What `complete` returns, and whether it called the adapter for it. -/
structure Completion where
  result : Except LlmError LlmResponse
  calledAdapter : Bool
  cache : SemanticCache

namespace SemanticCache

def new (capacity : Nat) : SemanticCache := ⟨capacity, ∅, [], 0, 0⟩

def touch (self : SemanticCache) (key : UInt64) : SemanticCache :=
  if key ∈ self.lruOrder then { self with lruOrder := key :: self.lruOrder.erase key } else self

def evict (self : SemanticCache) : SemanticCache :=
  match self.lruOrder.getLast? with
  | some evicted => { self with lruOrder := self.lruOrder.dropLast, entries := self.entries.erase evicted }
  | none => self

def insert (self : SemanticCache) (key : UInt64) (resp : LlmResponse) : SemanticCache :=
  let self := if HashMap.size self.entries ≥ self.capacity then self.evict else self
  { self with entries := self.entries.insert key resp, lruOrder := key :: self.lruOrder }

def complete (ahash : Hasher) (adapter : LlmRequest → Except LlmError LlmResponse) (self : SemanticCache)
    (req : LlmRequest) : Completion :=
  let key := hashRequest ahash req
  match self.entries.lookup key with
  | some cached => ⟨.ok cached, false, { self with hits := self.hits + 1 }.touch key⟩
  | none =>
      let self := { self with misses := self.misses + 1 }
      match adapter req with
      | .ok resp => ⟨.ok resp, true, self.insert key resp⟩
      | .error e => ⟨.error e, true, self⟩

end SemanticCache

end LiveWorld

import LiveWorld.SemanticCache

/-!
# LLM backends

The clients of the three services are outside, and a backend is what it answers.
-/

namespace LiveWorld

abbrev Backend := LlmRequest → Except LlmError LlmResponse

structure MockLlm where
  model : LlmModel
  responseTemplate : String
  deriving DecidableEq, Repr

namespace MockLlm

def new : MockLlm := ⟨.Mock, "I observe the world around me and decide to act."⟩

def withResponse (self : MockLlm) (response : String) : MockLlm := { self with responseTemplate := response }

-- `format!("[{}] {}", req.model, self.response_template)`
def complete (self : MockLlm) : Backend := fun req =>
  .ok ⟨"[" ++ req.model.toString ++ "] " ++ self.responseTemplate, self.model, 20⟩

end MockLlm

end LiveWorld

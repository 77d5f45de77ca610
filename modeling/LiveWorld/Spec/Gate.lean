import LiveWorld.Connection

/-!
# The authentication gate

With `JWT_SECRET` set, commands of a connection go through only if its first frame presents a token
that this secret accepts.
-/

namespace LiveWorld.Spec

def PresentsToken (crates : TokenCrates) (json : JsonCrate) (auth : AuthState) (secret : String)
    (frames : List Received) : Prop :=
  ∃ now text value token rest, frames = ⟨now, some (.Text text)⟩ :: rest ∧ json.value text = some value ∧
    (value.index "token").asStr = some token ∧
    Auth.validateWithSecret crates auth (some token) (some secret) = true

def Gated (crates : TokenCrates) (json : JsonCrate) (env : Env) (auth : AuthState) (secret : String)
    (conn : Connection) : Prop :=
  ∀ cmd, .clientCommand cmd ∈ conn.handleConnection crates json env auth →
    PresentsToken crates json auth secret conn.frames

end LiveWorld.Spec

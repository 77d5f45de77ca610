import LiveWorld.Spec.Gate

/-!
# When the gate is closed

The handler asks for a token if `LIVEWORLD_TOKEN` is set, and then checks it against `JWT_SECRET`.
-/

namespace LiveWorld.Proof.Gate
open Spec Connection
variable {crates : TokenCrates} {json : JsonCrate} {env : Env} {auth : AuthState} {secret : String}

theorem jwtSecret_eq (set : env.var "JWT_SECRET" = some secret) (nonempty : secret ≠ "") :
    Auth.jwtSecret env = some secret := by
  simp [Auth.jwtSecret, set, Option.filter, nonempty]

theorem validateWithSecret_some {token : Option String}
    (valid : Auth.validateWithSecret crates auth token (some secret) = true) : ∃ text, token = some text := by
  cases token with
  | none => cases valid
  | some text => exact ⟨text, rfl⟩

theorem authenticate_ok (set : Auth.jwtSecret env = some secret) (asked : (env.var "LIVEWORLD_TOKEN").isSome)
    {frames rest : List Received} (passed : authenticate crates json env auth frames = .ok rest) :
    PresentsToken crates json auth secret frames := by
  unfold authenticate at passed
  rw [if_pos asked] at passed
  split at passed
  · rename_i now text rest'
    dsimp only at passed
    split_ifs at passed with refused
    rw [Auth.validateToken, set, Bool.not_eq_true, Bool.not_eq_false'] at refused
    obtain ⟨token, provided⟩ := validateWithSecret_some refused
    rw [provided] at refused
    obtain ⟨value, parsed, token'⟩ := Option.bind_eq_some_iff.mp provided
    exact ⟨now, text, value, token, rest', rfl, parsed, token', refused⟩
  · cases passed

theorem authenticate_error {frames : List Received} {events : List ConnectionEvent}
    (failed : authenticate crates json env auth frames = .error events) (cmd : ClientCommand) :
    .clientCommand cmd ∉ events := by
  unfold authenticate at failed
  split at failed
  · split at failed
    · dsimp only at failed
      split_ifs at failed
      cases failed
      simp
    · cases failed
      simp
  · cases failed

theorem mem_handleConnection {conn : Connection} {cmd : ClientCommand}
    (passed : .clientCommand cmd ∈ conn.handleConnection crates json env auth) :
    ∃ rest, authenticate crates json env auth conn.frames = .ok rest := by
  rw [handleConnection] at passed
  split_ifs at passed
  · simp at passed
  · simp at passed
  · cases authenticated : authenticate crates json env auth conn.frames with
    | ok rest => exact ⟨rest, rfl⟩
    | error events =>
        rw [authenticated] at passed
        simp [authenticate_error authenticated cmd] at passed

theorem isWs_upgrade : isWs (asBytes "upgrade: websocket") = true := by decide +kernel

def pinging (text : String) : Connection where
  session := ⟨1⟩
  peeked := asBytes "upgrade: websocket"
  handshake := true
  frames := [⟨0, some (.Ping [])⟩, ⟨0, some (.Text text)⟩]
  opened := 0

theorem mem_handleConnection_pinging (open' : (env.var "LIVEWORLD_TOKEN").isSome = false) {text : String}
    {cmd : ClientCommand} (parsed : json.command text = .ok cmd) :
    .clientCommand cmd ∈ (pinging text).handleConnection crates json env auth := by
  have passed : authenticate crates json env auth (pinging text).frames = .ok (pinging text).frames := by
    unfold authenticate
    rw [open', if_neg Bool.false_ne_true]
  have allowed : (RateLimiter.new 20 0).allow 0 = (true, ⟨1, 0, 20⟩) := by decide
  rw [handleConnection, passed]
  simp [pinging, isWs_upgrade, inbound, allowed, dispatch, parsed]

/-- The gate is closed exactly when `LIVEWORLD_TOKEN` is set as well. -/
theorem gated_iff (crates : TokenCrates) (json : JsonCrate) (env : Env) (auth : AuthState) (secret : String)
    (set : env.var "JWT_SECRET" = some secret) (nonempty : secret ≠ "")
    (parses : ∃ text cmd, json.command text = .ok cmd) :
    (∀ conn, Gated crates json env auth secret conn) ↔ (env.var "LIVEWORLD_TOKEN").isSome := by
  constructor
  · intro gated
    by_contra unasked
    obtain ⟨text, cmd, parsed⟩ := parses
    obtain ⟨now, first, value, token, rest, frames, -⟩ :=
      gated (pinging text) cmd (mem_handleConnection_pinging (by simpa using unasked) parsed)
    cases frames
  · intro asked conn cmd passed
    obtain ⟨rest, authenticated⟩ := mem_handleConnection passed
    exact authenticate_ok (jwtSecret_eq set nonempty) asked authenticated

/-! ## A guarded server and an open one -/

def key : String := "super-secret-test-key-32-bytes!!"

-- the token issued to `u` one second after the epoch, for an hour
def head : String := "eyJhbGciOiJIUzI1NiIsInR5cCI6IkpXVCJ9"

def body : String := "eyJzdWIiOiJ1IiwiaWF0IjoxLCJleHAiOjM2MDEsImp0aSI6InUtMSJ9"

def sig : String := "c6nWZ2P_KnP78ITHgC6a8Ib5k8dY4NU7qTIwad0Z-zA"

def mac : List UInt8 :=
  [115, 169, 214, 103, 99, 255, 42, 115, 251, 240, 132, 199, 128, 46, 154, 240, 134, 249, 147, 199, 88, 224, 213, 59,
    169, 50, 48, 105, 221, 25, 251, 48]

def payload : String := "\x7b\"sub\":\"u\",\"iat\":1,\"exp\":3601,\"jti\":\"u-1\"\x7d"

def claims : Claims := ⟨"u", 1, 3601, "u-1"⟩

-- the answers of the crates to everything that this token makes the server ask
def tokenCrates : TokenCrates where
  hmac := fun secret data => if secret = asBytes key ∧ data = asBytes (head ++ "." ++ body) then some mac else none
  encode := fun bytes => if bytes = mac then sig else ""
  decode := fun text => if text = body then some (asBytes payload) else none
  toJson := fun c => if c = claims then some payload else none
  fromJson := fun bytes => if bytes = asBytes payload then some claims else none

def hello : String := "\x7b\"token\":\"" ++ head ++ "." ++ body ++ "." ++ sig ++ "\"\x7d"

def destroy : String := "\x7b\"type\":\"DestroyActor\",\"actor_id\":1\x7d"

def jsonCrate : JsonCrate where
  value := fun text =>
    if text = hello then some (.object [("token", .string (head ++ "." ++ body ++ "." ++ sig))])
    else if text = destroy then some (.object [("type", .string "DestroyActor"), ("actor_id", .number 1)])
    else none
  command := fun text => if text = destroy then .ok (.DestroyActor ⟨1⟩) else .error "expected a command"

def guarded : Env
  | "JWT_SECRET" => .value key
  | "LIVEWORLD_TOKEN" => .value ""
  | _ => .unset

def unguarded : Env
  | "JWT_SECRET" => .value key
  | _ => .unset

def client (texts : List String) : Connection where
  session := ⟨1⟩
  peeked := asBytes "upgrade: websocket"
  handshake := true
  frames := texts.map fun text => ⟨0, some (.Text text)⟩
  opened := 0

theorem gated_guarded :
    .clientCommand (.DestroyActor ⟨1⟩) ∈ (client [hello, destroy]).handleConnection tokenCrates jsonCrate guarded
        ⟨2, ∅⟩ ∧
      Gated tokenCrates jsonCrate guarded ⟨2, ∅⟩ key (client [hello, destroy]) := by
  refine ⟨by decide +kernel, ?_⟩
  exact (gated_iff tokenCrates jsonCrate guarded ⟨2, ∅⟩ key rfl (by decide) ⟨destroy, _, rfl⟩).mpr rfl _

theorem unguarded_passes_command :
    ¬∀ env secret, env.var "JWT_SECRET" = some secret → secret ≠ "" → ∀ auth conn,
      Gated tokenCrates jsonCrate env auth secret conn := by
  intro claim
  have passed : .clientCommand (.DestroyActor ⟨1⟩) ∈
      (client [destroy]).handleConnection tokenCrates jsonCrate unguarded ⟨2, ∅⟩ := by decide +kernel
  obtain ⟨now, text, value, token, rest, first, parsed, found, -⟩ :=
    claim unguarded key rfl (by decide) ⟨2, ∅⟩ (client [destroy]) _ passed
  cases first
  cases parsed
  cases found

end LiveWorld.Proof.Gate

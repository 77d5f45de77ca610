import LiveWorld.Lib.Transition
import LiveWorld.Metrics
import LiveWorld.Spec.Revocation

/-!
# HTTP exchanges

What a client writes to the server and how it reads the answer. `TokenStep` is what happens between the issue of a
token over HTTP and its use in a WebSocket handshake.
-/

namespace LiveWorld.Spec
open HashTable Separator

/-! ## Requests -/

/-- Lines, each of the later ones after a line ending. -/
def joinLines (first : List Char) (lines : List (List Char)) : List Char :=
  first ++ lines.flatMap fun line => '\r' :: '\n' :: line

def requestText (method path : String) (headers : List String) (body : String) : String :=
  String.ofList (joinLines (method ++ " " ++ path ++ " HTTP/1.1").toList (headers.map String.toList) ++
    blankLine ++ body.toList)

def IsWord (text : String) : Prop := text ≠ "" ∧ ∀ c ∈ text.toList, isWhiteSpace c = false

structure WellFormed (method path : String) (headers : List String) (body : String) : Prop where
  verb : IsWord method
  target : IsWord path
  lines : ∀ line ∈ headers, line ≠ "" ∧ '\r' ∉ line.toList
  oneBody : ¬blankLine <:+: body.toList
  short : (requestText method path headers body).utf8ByteSize ≤ 4096

/-! ## Responses -/

def dropCr (line : List Char) : List Char := if line.getLast? = some '\r' then line.dropLast else line

def strip (front line : List Char) : Option (List Char) :=
  if front.isPrefixOf line then some (line.drop front.length) else none

/-- The response as a client reads it, with the announced length. -/
def readResponse (text : String) : Option (HttpResponse × List Char) := do
  let (head, body) ← breakOn blankLine text.toList
  let lines := (head.splitOn '\n').map dropCr
  let status ← lines.head?.bind (strip "HTTP/1.1 ".toList)
  let contentType ← lines.findSome? (strip "Content-Type: ".toList)
  let length ← lines.findSome? (strip "Content-Length: ".toList)
  some (⟨String.ofList status, String.ofList contentType, String.ofList body⟩, length)

/-! ## Tokens over HTTP -/

inductive TokenStep
  | request (received : List UInt8)
  | clock (now : UInt64)
  /-- anything that does not concern tokens -/
  | world (engine : WorldEngine) (uptimeSecs : UInt64) (counters : Counters)

/-- The request in what was read; an empty read is none. -/
def requestIn (received : List UInt8) : Option HttpRequest :=
  if received.isEmpty then none else some (.parse ((fromUtf8 (received.take 4096)).getD ""))

def revokedBy (json : JsonCrate) (req : HttpRequest) : Option String :=
  if req.method = "POST" ∧ req.path = "/auth/revoke" then HttpServer.field json req.body "jti" else none

namespace TokenStep
variable (host : HttpHost)

def next (server : HttpServer) : TokenStep → Option HttpServer
  | .request received => some (server.serveHttp host received).2
  | .clock now => if now < server.auth.now then none else some { server with auth := { server.auth with now } }
  | .world engine uptimeSecs counters => some { server with engine, uptimeSecs, counters }

/-- The id that a request revokes. -/
def revokes : TokenStep → Option String
  | .request received => (requestIn received).bind (revokedBy host.json)
  | _ => none

end TokenStep

/-- A character that stands for itself in a JSON string. -/
def Unescaped (c : Char) : Prop := c ≠ '"' ∧ c ≠ '\\' ∧ 32 ≤ c.toNat

/-- What the crates promise: base64 writes nothing that JSON would escape, and serde_json reads a string without
escapes as it stands. -/
structure PlainTokens (host : HttpHost) : Prop where
  encode : ∀ bytes, ∀ c ∈ (host.crates.encode bytes).toList, Unescaped c
  value : ∀ text : String, (∀ c ∈ text.toList, Unescaped c) →
    host.json.value (HttpServer.tokenBody text) = some (.object [("token", .string text)])

def ttlSecs (host : HttpHost) : UInt64 := ((host.env.var "JWT_TTL_SECS").bind host.parse).getD Auth.defaultTtlSecs

/-- What a WebSocket handshake does with a first frame that is the body of the answer. -/
def presented (host : HttpHost) (server : HttpServer) (body : String) : Except (List ConnectionEvent) (List Received) :=
  Connection.authenticate host.crates host.json host.env server.auth [⟨0, some (.Text body)⟩]

/-- From `server` on, the answer opens a connection until `exp`, unless `jti` is revoked. -/
structure OpensUntil (host : HttpHost) (server : HttpServer) (answer jti : String) (exp : UInt64) : Prop where
  opens : ∀ steps later, Transition.run (TokenStep.next host) server steps = some later →
    later.auth.now ≤ exp → jti ∉ server.auth.revoked → (∀ step ∈ steps, step.revokes host ≠ some jti) →
    presented host later answer = .ok []
  refused : ∀ steps later, Transition.run (TokenStep.next host) server steps = some later →
    (exp < later.auth.now ∨ jti ∈ server.auth.revoked ∨ ∃ step ∈ steps, step.revokes host = some jti) →
    presented host later answer = .error [.sendError 401 "Unauthorized"]

end LiveWorld.Spec

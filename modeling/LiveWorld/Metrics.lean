import LiveWorld.Connection
import LiveWorld.Lib.Separator
import LiveWorld.Persistence
import LiveWorld.WorldEngine

/-!
# Metrics and the HTTP server

A request is what one read of the socket returns. Both servers, that of the metrics port and the fallback on the
WebSocket port, treat it in the same way.
-/

namespace LiveWorld
open HashTable Separator

/-! ## Counters -/

structure Counters where
  llmCallsTotal : UInt64
  llmErrorsTotal : UInt64
  wsConnectionsActive : UInt64
  deriving DecidableEq, Repr

def incLlmCalls (self : Counters) : Counters := { self with llmCallsTotal := self.llmCallsTotal + 1 }

def incLlmErrors (self : Counters) : Counters := { self with llmErrorsTotal := self.llmErrorsTotal + 1 }

/-! ## Requests -/

structure HttpRequest where
  method : String
  path : String
  body : String
  deriving DecidableEq, Repr

-- `lines().next().unwrap_or("")`: a carriage return is part of the line ending only before a line feed
def firstLine (req : List Char) : List Char :=
  let line := req.takeWhile (· ≠ '\n')
  if line.length < req.length ∧ line.getLast? = some '\r' then line.dropLast else line

def splitWhitespace (text : List Char) : List (List Char) := (text.splitOnP isWhiteSpace).filter (· ≠ [])

def blankLine : List Char := ['\r', '\n', '\r', '\n']

def HttpRequest.parse (req : String) : HttpRequest :=
  let words := splitWhitespace (firstLine req.toList)
  let body := (secondPart blankLine req.toList).orElse fun _ => secondPart ['\n', '\n'] req.toList
  { method := (words[0]?.map String.ofList).getD "GET"
    path := (words[1]?.map String.ofList).getD "/"
    body := trim ((body.map String.ofList).getD "") }

/-! ## Responses -/

structure HttpResponse where
  status : String
  contentType : String
  body : String
  deriving DecidableEq, Repr

def HttpResponse.render (self : HttpResponse) : String :=
  "HTTP/1.1 " ++ self.status ++ "\r\nContent-Type: " ++ self.contentType ++ "\r\nContent-Length: " ++
    toString self.body.utf8ByteSize ++ "\r\nAccess-Control-Allow-Origin: *\r\nConnection: close\r\n\r\n" ++ self.body

/-! ## The server -/

structure HttpServer where
  engine : WorldEngine
  uptimeSecs : UInt64
  counters : Counters
  auth : AuthState

/-- What lies outside: the crates, the environment, `str::parse::<u64>` and `static/index.html`. -/
structure HttpHost where
  crates : TokenCrates
  json : JsonCrate
  env : Env
  parse : String → Option UInt64
  indexHtml : Option String

namespace HttpServer

def metric (name help kind value : String) : String :=
  "# HELP " ++ name ++ " " ++ help ++ "\n# TYPE " ++ name ++ " " ++ kind ++ "\n" ++ name ++ " " ++ value ++ "\n"

def metrics (self : HttpServer) : HttpResponse where
  status := "200 OK"
  contentType := "text/plain; version=0.0.4; charset=utf-8"
  body :=
    metric "liveworld_actors_total" "Active actor count" "gauge" (toString self.engine.actorCount) ++
    metric "liveworld_sessions_total" "Active session count" "gauge" (toString self.engine.sessionCount) ++
    metric "liveworld_ticks_total" "World tick counter" "counter" (toString self.engine.tickCount.toNat) ++
    metric "liveworld_uptime_seconds" "Server uptime" "gauge" (toString self.uptimeSecs.toNat) ++
    metric "liveworld_llm_calls_total" "Cumulative LLM calls" "counter" (toString self.counters.llmCallsTotal.toNat) ++
    metric "liveworld_llm_errors_total" "Cumulative LLM errors" "counter"
      (toString self.counters.llmErrorsTotal.toNat) ++
    metric "liveworld_ws_connections_active" "Live WebSocket connections" "gauge"
      (toString self.counters.wsConnectionsActive.toNat)

def health (self : HttpServer) : HttpResponse where
  status := "200 OK"
  contentType := "application/json"
  body := "\x7b\"status\":\"ok\",\"actors\":" ++ toString self.engine.actorCount ++ ",\"sessions\":" ++
    toString self.engine.sessionCount ++ ",\"uptime_secs\":" ++ toString self.uptimeSecs.toNat ++ "\x7d"

/-- `serde_json::from_str::<Value>(body).ok().and_then(|v| v[key].as_str())` -/
def field (json : JsonCrate) (body key : String) : Option String := (json.value body).bind fun v => (v.index key).asStr

def tokenBody (token : String) : String := "\x7b\"token\":\"" ++ token ++ "\"\x7d"

def issueToken (host : HttpHost) (self : HttpServer) (body : String) : HttpResponse :=
  match field host.json body "user_id" with
  | none => ⟨"400 Bad Request", "application/json", "\x7b\"error\":\"Missing user_id\"\x7d"⟩
  | some uid =>
      match Auth.issueToken host.crates host.env host.parse self.auth uid with
      | some token => ⟨"200 OK", "application/json", tokenBody token⟩
      | none => ⟨"200 OK", "application/json", "\x7b\"message\":\"Auth disabled — no token required\"\x7d"⟩

def revoke (host : HttpHost) (self : HttpServer) (body : String) : HttpResponse × HttpServer :=
  match field host.json body "jti" with
  | none => (⟨"400 Bad Request", "application/json", "\x7b\"error\":\"Missing jti\"\x7d"⟩, self)
  | some jti =>
      (⟨"200 OK", "application/json", "\x7b\"status\":\"revoked\"\x7d"⟩,
        { self with auth := Auth.revokeToken self.auth jti })

def index (host : HttpHost) : HttpResponse where
  status := "200 OK"
  contentType := "text/html; charset=utf-8"
  body := host.indexHtml.getD "<h1>LiveWorld</h1><p>static/index.html not found.</p>"

def handleRequest (host : HttpHost) (self : HttpServer) (req : HttpRequest) : HttpResponse × HttpServer :=
  match req.method, req.path with
  | "GET", "/metrics" => (self.metrics, self)
  | "POST", "/auth/token" => (self.issueToken host req.body, self)
  | "POST", "/auth/revoke" => self.revoke host req.body
  | "GET", "/health" => (self.health, self)
  | "GET", "/" | "GET", "/index.html" => (index host, self)
  | _, _ => (⟨"404 Not Found", "text/plain", "Not Found"⟩, self)

/-- `serve_http`, with what the read of up to 4096 bytes returns. Nothing is answered to an empty read. -/
def serveHttp (host : HttpHost) (self : HttpServer) (received : List UInt8) : Option String × HttpServer :=
  if received.isEmpty then (none, self)
  else
    let req := (fromUtf8 (received.take 4096)).getD ""
    let (response, self) := self.handleRequest host (.parse req)
    (some response.render, self)

end HttpServer

end LiveWorld

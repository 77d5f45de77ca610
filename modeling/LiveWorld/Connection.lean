import LiveWorld.Auth
import LiveWorld.Lib.Machine
import LiveWorld.Types

/-!
# The handler of one connection

A connection is everything its client does: the request, the handshake and the frames, each with the
clock reading at its arrival. `handleConnection` is what the handler does about it, in order.
-/

namespace LiveWorld
open HashTable Machine

/-! ## Per-IP connection limiter -/

inductive IpAddr
  | V4 (octets : BitVec 32)
  | V6 (octets : BitVec 128)
  deriving DecidableEq, Repr

structure ConnectionLimiter where
  counts : HashMap IpAddr UInt32
  maxPerIp : UInt32

namespace ConnectionLimiter

def new (maxPerIp : UInt32) : ConnectionLimiter := ⟨∅, maxPerIp⟩

def tryAcquire (self : ConnectionLimiter) (ip : IpAddr) : Bool × ConnectionLimiter :=
  let count := (self.counts.lookup ip).getD 0
  -- `or_insert` leaves an entry behind whatever the answer is
  if count ≥ self.maxPerIp then (false, { self with counts := self.counts.insert ip count })
  else (true, { self with counts := self.counts.insert ip (count + 1) })

def release (self : ConnectionLimiter) (ip : IpAddr) : ConnectionLimiter :=
  match self.counts.lookup ip with
  | some count =>
      let count := saturatingSub32 count 1
      if count = 0 then { self with counts := self.counts.erase ip }
      else { self with counts := self.counts.insert ip count }
  | none => self

end ConnectionLimiter

/-! ## Rate limiter -/

/-- Clock readings are in nanoseconds. -/
structure RateLimiter where
  count : UInt32
  windowStart : Nat
  limit : UInt32
  deriving DecidableEq, Repr

namespace RateLimiter

def new (limit : UInt32) (now : Nat) : RateLimiter := ⟨0, now, limit⟩

def allow (self : RateLimiter) (now : Nat) : Bool × RateLimiter :=
  let self := if now - self.windowStart ≥ 1000000000 then { self with count := 0, windowStart := now } else self
  if self.count ≥ self.limit then (false, self) else (true, { self with count := self.count + 1 })

end RateLimiter

/-! ## Frames -/

inductive Message
  | Text (text : String)
  | Binary (bytes : List UInt8)
  | Ping (payload : List UInt8)
  | Pong (payload : List UInt8)
  | Close
  | Frame (raw : List UInt8)
  deriving DecidableEq, Repr

/-- An item of the stream; `none` stands for a transport or protocol error. -/
structure Received where
  now : Nat
  item : Option Message
  deriving DecidableEq, Repr

inductive Json
  | null
  | bool (value : Bool)
  | number (value : Rat)
  | string (text : String)
  | array (items : List Json)
  | object (fields : List (String × Json))

namespace Json

/-- `v[key]`, which is null unless `v` is an object with that key. -/
def index (self : Json) (key : String) : Json :=
  match self with
  | .object fields => ((fields.find? fun field => field.1 = key).map Prod.snd).getD .null
  | _ => .null

def asStr : Json → Option String
  | .string text => some text
  | _ => none

end Json

structure JsonCrate where
  value : String → Option Json
  command : String → Except String ClientCommand

structure Connection where
  session : SessionId
  /-- the bytes that can be peeked; none if that fails -/
  peeked : List UInt8
  handshake : Bool
  frames : List Received
  opened : Nat

/-! ## The events of a handler -/

inductive ConnectionEvent
  | serveHttp
  | incWsConnections
  | decWsConnections
  | sendError (code : UInt32) (message : String)
  | clientCommand (cmd : ClientCommand)
  | sessionDisconnect (session : SessionId)
  deriving DecidableEq, Repr

/-! ## The gauge of the metrics -/

def incWsConnections (wsConnectionsActive : UInt64) : UInt64 := wsConnectionsActive + 1

def decWsConnections (wsConnectionsActive : UInt64) : UInt64 := wsConnectionsActive - 1

def ConnectionEvent.onGauge : ConnectionEvent → UInt64 → UInt64
  | .incWsConnections => LiveWorld.incWsConnections
  | .decWsConnections => LiveWorld.decWsConnections
  | _ => id

/-! ## What the handler does -/

def fromUtf8 (bytes : List UInt8) : Option String := String.fromUTF8? ⟨bytes.toArray⟩

def contains (text needle : String) : Bool := text.toList.tails.any needle.toList.isPrefixOf

namespace Connection

def isWs (peeked : List UInt8) : Bool :=
  let lower := ((fromUtf8 (peeked.take 4096)).getD "").map Char.toLower
  contains lower "upgrade: websocket" || contains lower "upgrade:websocket"

def dispatch (json : JsonCrate) (text : String) : ConnectionEvent :=
  match json.command text with
  | .ok cmd => .clientCommand cmd
  | .error e => .sendError 400 e

def inbound (json : JsonCrate) : RateLimiter → List Received → List ConnectionEvent
  | _, [] => []
  | rate, ⟨now, item⟩ :: rest =>
      match item with
      | some (.Text text) =>
          let (allowed, rate) := rate.allow now
          if !allowed then .sendError 429 "Rate limit exceeded" :: inbound json rate rest
          else dispatch json text :: inbound json rate rest
      | some (.Binary bytes) =>
          let (allowed, rate) := rate.allow now
          if !allowed then .sendError 429 "Rate limit exceeded" :: inbound json rate rest
          else
            match fromUtf8 bytes with
            | some text => dispatch json text :: inbound json rate rest
            | none => inbound json rate rest
      | some .Close | none => []
      | some (.Ping _) | some (.Pong _) | some (.Frame _) => inbound json rate rest

/-- The remaining frames once the client is let in, or what happens before the handler returns. -/
def authenticate (crates : TokenCrates) (json : JsonCrate) (env : Env) (auth : AuthState)
    (frames : List Received) : Except (List ConnectionEvent) (List Received) :=
  if (env.var "LIVEWORLD_TOKEN").isSome then
    match frames with
    | ⟨_, some (.Text text)⟩ :: rest =>
        let provided := (json.value text).bind fun v => (v.index "token").asStr
        if !Auth.validateToken crates env auth provided then .error [.sendError 401 "Unauthorized"]
        else .ok rest
    | _ => .error []
  else .ok frames

def handleConnection (crates : TokenCrates) (json : JsonCrate) (env : Env) (auth : AuthState) (conn : Connection) :
    List ConnectionEvent :=
  if !isWs conn.peeked then [.serveHttp]
  else if !conn.handshake then []
  else
    .incWsConnections ::
      match authenticate crates json env auth conn.frames with
      | .error events => events
      | .ok frames =>
          inbound json (.new 20 conn.opened) frames ++ [.decWsConnections, .sessionDisconnect conn.session]

end Connection

end LiveWorld

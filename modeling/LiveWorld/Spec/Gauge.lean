import LiveWorld.Connection
import LiveWorld.Lib.Transition

/-!
# The gauge of connections

Any number of handlers run at once. Each of them goes through its events one by one, waiting in between for as long as
the scheduler likes, and returns when it has nothing left to do.
-/

namespace LiveWorld.Spec

structure Handler where
  countedIn : Bool
  countedOut : Bool
  rest : List ConnectionEvent
  deriving DecidableEq, Repr

namespace Handler

def new (events : List ConnectionEvent) : Handler := ⟨false, false, events⟩

def done (self : Handler) (event : ConnectionEvent) (rest : List ConnectionEvent) : Handler where
  countedIn := self.countedIn || decide (event = .incWsConnections)
  countedOut := self.countedOut || decide (event = .decWsConnections)
  rest := rest

def present (self : Handler) : Bool := self.countedIn && !self.countedOut

end Handler

structure Handlers where
  gauge : UInt64
  /-- the handlers that have not returned -/
  running : List Handler
  deriving DecidableEq, Repr

inductive HandlerStep
  | accept (auth : AuthState) (conn : Connection)
  | advance (index : Nat)

/-- An upgraded connection that fails or omits the authentication. -/
def refused (crates : TokenCrates) (json : JsonCrate) (env : Env) (auth : AuthState) (conn : Connection) : Bool :=
  Connection.isWs conn.peeked && conn.handshake &&
    match Connection.authenticate crates json env auth conn.frames with
    | .ok _ => false
    | .error _ => true

def HandlerStep.refused (crates : TokenCrates) (json : JsonCrate) (env : Env) : HandlerStep → Bool
  | .accept auth conn => Spec.refused crates json env auth conn
  | .advance _ => false

namespace Handlers

/-- No handler runs, and the gauge shows `earlier`. -/
def quiet (earlier : UInt64) : Handlers := ⟨earlier, []⟩

def advance (s : Handlers) (index : Nat) (handler : Handler) : Handlers :=
  match handler.rest with
  | [] => { s with running := s.running.eraseIdx index }
  | event :: rest => ⟨event.onGauge s.gauge, s.running.set index (handler.done event rest)⟩

def next (crates : TokenCrates) (json : JsonCrate) (env : Env) (s : Handlers) : HandlerStep → Handlers
  | .accept auth conn => { s with running := s.running ++ [.new (conn.handleConnection crates json env auth)] }
  | .advance index =>
      match s.running[index]? with
      | some handler => s.advance index handler
      | none => s

/-- The gauge is the number of handlers that have counted themselves in and have not returned. -/
def Exact (s : Handlers) : Prop := s.gauge = UInt64.ofNat (s.running.countP Handler.countedIn)

/-- The same, where a handler that has counted itself out is as good as gone. -/
def Balanced (s : Handlers) : Prop := s.gauge = UInt64.ofNat (s.running.countP Handler.present)

/-- A handler that has counted itself in neither counts itself out nor returns. -/
def Stays (s : Handlers) : HandlerStep → Prop
  | .accept _ _ => True
  | .advance index => ∀ handler ∈ s.running[index]?, handler.countedIn = true →
      ∃ event rest, handler.rest = event :: rest ∧ event ≠ .decWsConnections

/-- A handler that has counted itself in does not return before it has counted itself out. -/
def CountsOut (s : Handlers) : HandlerStep → Prop
  | .accept _ _ => True
  | .advance index => ∀ handler ∈ s.running[index]?, handler.present = true → handler.rest ≠ []

end Handlers

end LiveWorld.Spec

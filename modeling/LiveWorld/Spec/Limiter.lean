import LiveWorld.Connection

/-!
# Connections of one address

The accept loop asks the limiter about each connection and starts a handler for those it is given a place for; a
handler gives its place back when it is done.
-/

namespace LiveWorld.Spec
open HashTable

structure Acceptor where
  limiter : ConnectionLimiter
  /-- the addresses of the handlers that run -/
  running : List IpAddr

inductive AcceptorStep
  | accept (ip : IpAddr)
  | finish (index : Nat)
  deriving DecidableEq, Repr

namespace Acceptor

def start (maxPerIp : UInt32) : Acceptor := ⟨.new maxPerIp, []⟩

def next (s : Acceptor) : AcceptorStep → Acceptor
  | .accept ip =>
      let (acquired, limiter) := s.limiter.tryAcquire ip
      if !acquired then { s with limiter } else ⟨limiter, s.running ++ [ip]⟩
  | .finish index =>
      match s.running[index]? with
      | some ip => ⟨s.limiter.release ip, s.running.eraseIdx index⟩
      | none => s

/-- The entry of an address is the number of its handlers, and there is none if there are no handlers. -/
structure Accounts (maxPerIp : UInt32) (s : Acceptor) : Prop where
  counts : ∀ ip, (s.limiter.counts.lookup ip).map UInt32.toNat =
    if ip ∈ s.running then some (s.running.count ip) else none
  bounded : ∀ ip, s.running.count ip ≤ maxPerIp.toNat
  refuses : ∀ ip, (s.limiter.tryAcquire ip).1 = false ↔ s.running.count ip = maxPerIp.toNat

end Acceptor

end LiveWorld.Spec

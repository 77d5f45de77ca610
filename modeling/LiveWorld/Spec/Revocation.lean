import LiveWorld.Auth
import LiveWorld.Lib.Transition

/-!
# Issued and revoked tokens

`TokenDesk` is the state of authentication with every token that has been issued so far, in the order of the calls,
and the calls whose token has been revoked.
-/

namespace LiveWorld.Spec
open HashTable

/-- What the crates promise: base64 and serde_json read back what they wrote, the encoding has no dots, and neither
hmac nor serde_json fails. -/
structure LawfulCrates (crates : TokenCrates) : Prop where
  decode : ∀ bytes, crates.decode (crates.encode bytes) = some bytes
  undotted : ∀ bytes, '.' ∉ (crates.encode bytes).toList
  fromJson : ∀ claims text, crates.toJson claims = some text → crates.fromJson (asBytes text) = some claims
  toJson : ∀ claims, (crates.toJson claims).isSome
  hmac : ∀ secret data, (crates.hmac secret data).isSome

structure Issued where
  sub : String
  now : UInt64
  token : String
  deriving DecidableEq, Repr

structure TokenDesk where
  auth : AuthState
  issued : List Issued
  revoked : List Nat

inductive TokenCall
  | issue (now : UInt64) (sub : String) (ttlSecs : UInt64)
  | revoke (call : Nat)
  | validate (now : UInt64) (token : Option String)
  deriving DecidableEq, Repr

namespace TokenDesk
variable (crates : TokenCrates) (secret : String)

def start (now : UInt64) : TokenDesk := ⟨⟨now, ∅⟩, [], []⟩

def advance (s : TokenDesk) (now : UInt64) : TokenDesk := { s with auth := { s.auth with now } }

def tokenOf (s : TokenDesk) (call : Nat) : Option String := s.issued[call]?.map Issued.token

/-- The id in the token of a call, read at a time when nothing has expired. -/
def jtiOf (s : TokenDesk) (call : Nat) : Option String :=
  (s.tokenOf call).bind fun token => (Jwt.validate crates 0 token (asBytes secret)).toOption.map Claims.jti

def next (s : TokenDesk) : TokenCall → Option TokenDesk
  | .issue now sub ttlSecs =>
      if now < s.auth.now then none
      else
        match Jwt.issue crates now sub (asBytes secret) ttlSecs with
        | .ok token => some { s.advance now with issued := s.issued ++ [⟨sub, now, token⟩] }
        | .error _ => some (s.advance now)
  | .revoke call =>
      (s.jtiOf crates secret call).map fun id =>
        { s with auth := Auth.revokeToken s.auth id, revoked := call :: s.revoked }
  | .validate now _ => if now < s.auth.now then none else some (s.advance now)

def Accepts (auth : AuthState) (token : String) : Prop :=
  Auth.validateWithSecret crates auth (some token) (some secret) = true

/-- Calls give tokens with ids of their own, revoking one token leaves the others valid, and a revoked token is
accepted at no time. -/
structure Precise (s : TokenDesk) : Prop where
  distinct : ∀ i j id, s.jtiOf crates secret i = some id → s.jtiOf crates secret j = some id → i = j
  others : ∀ i j id token now, i ≠ j → s.jtiOf crates secret i = some id → s.tokenOf j = some token →
    Accepts crates secret (s.advance now).auth token →
    Accepts crates secret (Auth.revokeToken (s.advance now).auth id) token
  final : ∀ i ∈ s.revoked, ∀ token, s.tokenOf i = some token →
    ∀ now, ¬Accepts crates secret (s.advance now).auth token

/-- No token has been issued to the same subject in the same second. -/
def NewSecond (s : TokenDesk) : TokenCall → Prop
  | .issue now sub _ => ∀ issued ∈ s.issued, ¬(issued.sub = sub ∧ issued.now = now)
  | _ => True

instance (s : TokenDesk) (call : TokenCall) : Decidable (NewSecond s call) := by
  cases call <;> unfold NewSecond <;> infer_instance

end TokenDesk

end LiveWorld.Spec

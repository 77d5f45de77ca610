import LiveWorld.Lib.HashTable

/-!
# Tokens

HS256 tokens, their validation, and the environment variables that switch it on. The hmac, base64 and
serde_json crates are given functions.
-/

namespace LiveWorld
open HashTable

/-! ## The environment -/

inductive EnvVar
  | unset
  | notUnicode
  | value (text : String)
  deriving DecidableEq, Repr

abbrev Env := String → EnvVar

/-- `std::env::var(name).ok()`. -/
def Env.var (env : Env) (name : String) : Option String :=
  match env name with
  | .value text => some text
  | .unset | .notUnicode => none

/-! ## JWT -/

structure Claims where
  sub : String
  iat : UInt64
  exp : UInt64
  jti : String
  deriving DecidableEq, Repr

structure TokenCrates where
  hmac : (secret data : List UInt8) → Option (List UInt8)
  encode : List UInt8 → String
  decode : String → Option (List UInt8)
  toJson : Claims → Option String
  fromJson : List UInt8 → Option Claims

inductive JwtError
  | malformed
  | key
  | signature
  | encoding
  | json
  | expired
  deriving DecidableEq, Repr

def asBytes (text : String) : List UInt8 := text.toUTF8.data.toList

/-- `str::splitn`: at most `n` pieces, the last of which keeps its separators. -/
def splitn : Nat → Char → List Char → List (List Char)
  | 0, _, _ => []
  | 1, _, text => [text]
  | n + 2, separator, text =>
      match text.dropWhile (· ≠ separator) with
      | [] => [text]
      | _ :: rest => text.takeWhile (· ≠ separator) :: splitn (n + 1) separator rest

namespace Jwt

def header : String := "\x7b\"alg\":\"HS256\",\"typ\":\"JWT\"\x7d"

def sign (crates : TokenCrates) (data : String) (secret : List UInt8) : Except JwtError String :=
  match crates.hmac secret (asBytes data) with
  | some mac => .ok (crates.encode mac)
  | none => .error .key

def constantTimeEq (a b : List UInt8) : Bool :=
  if a.length ≠ b.length then false
  else (a.zip b).foldl (fun acc pair => acc ||| (pair.1 ^^^ pair.2)) 0 == 0

def issue (crates : TokenCrates) (now : UInt64) (sub : String) (secret : List UInt8) (ttlSecs : UInt64) :
    Except JwtError String := do
  let claims : Claims := ⟨sub, now, now + ttlSecs, sub ++ "-" ++ toString now.toNat⟩
  let some payload := crates.toJson claims | .error .json
  let signingInput := crates.encode (asBytes header) ++ "." ++ crates.encode (asBytes payload)
  let sig ← sign crates signingInput secret
  .ok (signingInput ++ "." ++ sig)

def validate (crates : TokenCrates) (now : UInt64) (token : String) (secret : List UInt8) :
    Except JwtError Claims :=
  match splitn 3 '.' token.toList with
  | [head, body, sig] => do
      let signingInput := String.ofList head ++ "." ++ String.ofList body
      let expected ← sign crates signingInput secret
      if !constantTimeEq (asBytes (String.ofList sig)) (asBytes expected) then .error .signature
      else
        let some payload := crates.decode (String.ofList body) | .error .encoding
        let some claims := crates.fromJson payload | .error .json
        if claims.exp < now then .error .expired else .ok claims
  | _ => .error .malformed

end Jwt

/-! ## Authentication -/

structure AuthState where
  now : UInt64
  revoked : HashSet String

namespace Auth

def defaultTtlSecs : UInt64 := 86400

def jwtSecret (env : Env) : Option String := (env.var "JWT_SECRET").filter fun secret => !secret.isEmpty

def revokeToken (self : AuthState) (jti : String) : AuthState := { self with revoked := self.revoked.insert jti () }

def validateWithSecret (crates : TokenCrates) (self : AuthState) (token secret : Option String) : Bool :=
  match secret with
  | none => true
  | some s =>
      let claims := token.bind fun t => (Jwt.validate crates self.now t (asBytes s)).toOption
      (claims.map fun claims => decide (claims.jti ∉ self.revoked)).getD false

def validateToken (crates : TokenCrates) (env : Env) (self : AuthState) (token : Option String) : Bool :=
  validateWithSecret crates self token (jwtSecret env)

/-- `parse` is `str::parse::<u64>`. -/
def issueToken (crates : TokenCrates) (env : Env) (parse : String → Option UInt64) (self : AuthState)
    (userId : String) : Option String := do
  let secret ← jwtSecret env
  let ttl := ((env.var "JWT_TTL_SECS").bind parse).getD defaultTtlSecs
  (Jwt.issue crates self.now userId (asBytes secret) ttl).toOption

end Auth

end LiveWorld

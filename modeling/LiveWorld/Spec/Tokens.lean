import LiveWorld.Spec.Revocation

/-!
# Which tokens are accepted

A token is a header, a payload and a signature, with dots between them.
-/

namespace LiveWorld.Spec

/-- A token that `validate` has to accept with `claims`. -/
def Acceptable (crates : TokenCrates) (now : UInt64) (token : String) (secret : List UInt8) (claims : Claims) : Prop :=
  ∃ head body sig : String, token = head ++ "." ++ body ++ "." ++ sig ∧ '.' ∉ head.toList ∧ '.' ∉ body.toList ∧
    Jwt.sign crates (head ++ "." ++ body) secret = .ok sig ∧
    (∃ payload, crates.decode body = some payload ∧ crates.fromJson payload = some claims) ∧ now ≤ claims.exp

/-- A token that is accepted until its time is over. -/
structure GoodFor (crates : TokenCrates) (token : String) (secret : List UInt8) (claims : Claims) : Prop where
  accepted : ∀ later, later.toNat ≤ claims.exp.toNat → Jwt.validate crates later token secret = .ok claims
  rejected : ∀ later, claims.exp.toNat < later.toNat → Jwt.validate crates later token secret = .error .expired

end LiveWorld.Spec

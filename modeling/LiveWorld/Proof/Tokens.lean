import LiveWorld.Proof.Revocation
import LiveWorld.Spec.Tokens

/-!
# Acceptance of tokens

The split at the first two dots can be undone, so a token that is accepted is the one that was signed.
-/

namespace LiveWorld.Proof.Revocation
open Spec
variable {crates : TokenCrates} {token : String} {secret : List UInt8} {claims : Claims}

/-! ## The split -/

theorem splitn_cons_inv {n : Nat} {separator : Char} {text first second : List Char} {more : List (List Char)}
    (split : splitn (n + 2) separator text = first :: second :: more) :
    ∃ rest, text = first ++ separator :: rest ∧ separator ∉ first ∧ splitn (n + 1) separator rest = second :: more := by
  have whole := List.takeWhile_append_dropWhile (p := fun c => decide (c ≠ separator)) (l := text)
  rw [splitn] at split
  cases dropped : text.dropWhile (fun c => decide (c ≠ separator)) with
  | nil =>
      rw [dropped] at split
      cases split
  | cons c rest =>
      rw [dropped] at split whole
      obtain ⟨rfl, later⟩ := List.cons.inj split
      have here : c = separator := by
        have stopped := List.head?_dropWhile_not (fun c => decide (c ≠ separator)) text
        rw [dropped] at stopped
        simpa using stopped
      subst here
      refine ⟨rest, whole.symm, fun member => ?_, later⟩
      have other := List.mem_takeWhile_imp member
      exact of_decide_eq_true other rfl

theorem splitn_three_inv {separator : Char} {text head body sig : List Char}
    (split : splitn 3 separator text = [head, body, sig]) :
    text = head ++ separator :: (body ++ separator :: sig) ∧ separator ∉ head ∧ separator ∉ body := by
  obtain ⟨rest, rfl, inHead, later⟩ := splitn_cons_inv split
  obtain ⟨last, rfl, inBody, final⟩ := splitn_cons_inv later
  rw [splitn] at final
  cases final
  exact ⟨rfl, inHead, inBody⟩

/-! ## Acceptance -/

theorem acceptable_of_ok {now : UInt64} (accepted : Jwt.validate crates now token secret = .ok claims) :
    Acceptable crates now token secret claims := by
  unfold Jwt.validate at accepted
  split at accepted
  · rename_i head body sig parts
    obtain ⟨chars, inHead, inBody⟩ := splitn_three_inv parts
    cases signed : Jwt.sign crates (String.ofList head ++ "." ++ String.ofList body) secret with
    | error e =>
        simp only [signed, bind, Except.bind] at accepted
        cases accepted
    | ok expected =>
        simp only [signed, bind, Except.bind] at accepted
        cases equal : Jwt.constantTimeEq (asBytes (String.ofList sig)) (asBytes expected) with
        | false =>
            simp only [equal, Bool.not_false, if_true] at accepted
            cases accepted
        | true =>
            simp only [equal, Bool.not_true, Bool.false_eq_true, if_false] at accepted
            have same : String.ofList sig = expected := asBytes_injective ((constantTimeEq_iff _ _).mp equal)
            subst same
            cases decoded : crates.decode (String.ofList body) with
            | none =>
                rw [decoded] at accepted
                cases accepted
            | some payload =>
                rw [decoded] at accepted
                cases read : crates.fromJson payload with
                | none =>
                    simp only [read] at accepted
                    cases accepted
                | some found =>
                    simp only [read] at accepted
                    split_ifs at accepted with late
                    cases accepted
                    refine ⟨String.ofList head, String.ofList body, String.ofList sig, ?_, ?_, ?_, signed,
                      ⟨payload, decoded, read⟩, UInt64.not_lt.mp late⟩
                    · rw [← String.toList_inj, chars]
                      simp [String.toList_append]
                    · rw [String.toList_ofList]
                      exact inHead
                    · rw [String.toList_ofList]
                      exact inBody
  · cases accepted

theorem validate_ok_iff (crates : TokenCrates) (now : UInt64) (token : String) (secret : List UInt8) (claims : Claims) :
    Jwt.validate crates now token secret = .ok claims ↔ Acceptable crates now token secret claims := by
  constructor
  · exact acceptable_of_ok
  · rintro ⟨head, body, sig, rfl, inHead, inBody, signed, ⟨payload, decoded, read⟩, inTime⟩
    rw [validate_signed inHead inBody signed decoded read, if_neg (UInt64.not_lt.mpr inTime)]

/-- Exactly the well-signed tokens are accepted, and an issued token is good for its claims until it expires. -/
theorem token_acceptance (lawful : LawfulCrates crates) :
    (∀ now token secret claims,
      Jwt.validate crates now token secret = .ok claims ↔ Acceptable crates now token secret claims) ∧
    ∀ (now : UInt64) (sub : String) (secret : List UInt8) (ttlSecs : UInt64), now.toNat + ttlSecs.toNat < 2 ^ 64 →
      ∃ token, Jwt.issue crates now sub secret ttlSecs = .ok token ∧
        (now + ttlSecs).toNat = now.toNat + ttlSecs.toNat ∧
        GoodFor crates token secret ⟨sub, now, now + ttlSecs, sub ++ "-" ++ toString now.toNat⟩ := by
  refine ⟨validate_ok_iff crates, fun now sub secret ttlSecs small => ?_⟩
  obtain ⟨token, issued, read⟩ := issue_validate lawful secret now sub ttlSecs
  have exp : (now + ttlSecs).toNat = now.toNat + ttlSecs.toNat := by
    rw [UInt64.toNat_add, Nat.mod_eq_of_lt small]
  refine ⟨token, issued, exp, fun later inTime => ?_, fun later late => ?_⟩
  · rw [read, if_neg (UInt64.not_lt.mpr (UInt64.le_iff_toNat_le.mpr inTime))]
    rfl
  · rw [read, if_pos (UInt64.lt_iff_toNat_lt.mpr late)]

theorem token_of_an_hour :
    LawfulCrates tokenCrates ∧
      ∃ token, Jwt.issue tokenCrates 1 "u" (asBytes key) 3600 = .ok token ∧
        Jwt.validate tokenCrates 3601 token (asBytes key) = .ok ⟨"u", 1, 3601, "u-1"⟩ ∧
        Jwt.validate tokenCrates 3602 token (asBytes key) = .error .expired := by
  refine ⟨lawful_tokenCrates, ?_⟩
  obtain ⟨token, issued, -, good⟩ := (token_acceptance lawful_tokenCrates).2 1 "u" (asBytes key) 3600 (by decide)
  exact ⟨token, issued, good.accepted 3601 (by decide), good.rejected 3602 (by decide)⟩

end LiveWorld.Proof.Revocation

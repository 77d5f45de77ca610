import LiveWorld.Spec.Revocation
import Mathlib.Tactic
import Std.Data.String.ToNat

/-!
# When revocation is precise

The id of a token is its subject and the second it was issued in. The two can be told apart, so ids differ unless
both are the same.
-/

namespace LiveWorld.Proof.Revocation
open HashTable Spec TokenDesk
variable {crates : TokenCrates} {secret : String} {s s' : TokenDesk} {call : TokenCall}

/-! ## Ids -/

def jti (sub : String) (now : UInt64) : String := sub ++ "-" ++ toString now.toNat

theorem dash_notMem_digits (n : Nat) : '-' ∉ (toString n).toList := by
  intro member
  have digit := Nat.isDigit_of_mem_toDigits (b := 10) (by decide) (by decide) (by simpa using member)
  revert digit
  decide

theorem split_at_last {α : Type} {a a' b b' : List α} {x : α} (absent : x ∉ b) (absent' : x ∉ b')
    (same : a ++ x :: b = a' ++ x :: b') : a = a' ∧ b = b' := by
  rcases List.append_eq_append_iff.mp same with ⟨c, first, rest⟩ | ⟨c, first, rest⟩
  · cases c with
    | nil =>
        rw [List.append_nil] at first
        cases rest
        exact ⟨first.symm, rfl⟩
    | cons y c =>
        cases rest
        exact absurd (List.mem_append_right c List.mem_cons_self) absent
  · cases c with
    | nil =>
        rw [List.append_nil] at first
        cases rest
        exact ⟨first, rfl⟩
    | cons y c =>
        cases rest
        exact absurd (List.mem_append_right c List.mem_cons_self) absent'

theorem jti_inj {sub sub' : String} {now now' : UInt64} : jti sub now = jti sub' now' ↔ sub = sub' ∧ now = now' := by
  constructor
  · intro same
    have chars := congrArg String.toList same
    simp only [jti, String.toList_append, List.append_assoc] at chars
    obtain ⟨front, back⟩ := split_at_last (dash_notMem_digits _) (dash_notMem_digits _) chars
    have number : now.toNat = now'.toNat := Nat.repr_injective (String.toList_inj.mp back)
    exact ⟨String.toList_inj.mp front, UInt64.toNat_inj.mp number⟩
  · rintro ⟨rfl, rfl⟩
    rfl

/-! ## One token -/

theorem splitn_cons {text rest : List Char} {separator : Char} (n : Nat) (absent : separator ∉ text) :
    splitn (n + 2) separator (text ++ separator :: rest) = text :: splitn (n + 1) separator rest := by
  have different : ∀ c ∈ text, decide (c ≠ separator) = true :=
    fun c member => decide_eq_true fun same => absent (same ▸ member)
  rw [splitn, List.dropWhile_append_of_pos different, List.takeWhile_append_of_pos different]
  simp

theorem foldl_or_eq_zero_iff (pairs : List (UInt8 × UInt8)) (acc : UInt8) :
    pairs.foldl (fun acc pair => acc ||| (pair.1 ^^^ pair.2)) acc = 0 ↔ acc = 0 ∧ ∀ pair ∈ pairs, pair.1 = pair.2 := by
  induction pairs generalizing acc with
  | nil => simp
  | cons pair rest ih =>
      rw [List.foldl_cons, ih, UInt8.or_eq_zero_iff, UInt8.xor_eq_zero_iff, List.forall_mem_cons, and_assoc]

/-- The comparison that looks at all bytes is equality. -/
theorem constantTimeEq_iff (a b : List UInt8) : Jwt.constantTimeEq a b = true ↔ a = b := by
  unfold Jwt.constantTimeEq
  constructor
  · intro equal
    split_ifs at equal with length
    rw [beq_iff_eq, foldl_or_eq_zero_iff] at equal
    rw [not_not] at length
    refine List.ext_getElem length fun i inA inB => ?_
    have member : (a[i], b[i]) ∈ a.zip b := by
      rw [List.mem_iff_getElem]
      exact ⟨i, by simpa using ⟨inA, inB⟩, List.getElem_zip⟩
    exact equal.2 _ member
  · rintro rfl
    rw [if_neg (not_not_intro rfl), beq_iff_eq, foldl_or_eq_zero_iff]
    refine ⟨rfl, fun pair member => ?_⟩
    obtain ⟨i, bound, rfl⟩ := List.mem_iff_getElem.mp member
    rw [List.getElem_zip]

theorem splitn_two {head body sig : List Char} {separator : Char} (inHead : separator ∉ head)
    (inBody : separator ∉ body) :
    splitn 3 separator (head ++ separator :: (body ++ separator :: sig)) = [head, body, sig] := by
  rw [splitn_cons 1 inHead, splitn_cons 0 inBody, splitn]

theorem sign_ok (lawful : LawfulCrates crates) (data : String) (secret : List UInt8) :
    ∃ mac, Jwt.sign crates data secret = .ok (crates.encode mac) := by
  obtain ⟨mac, computed⟩ := Option.isSome_iff_exists.mp (lawful.hmac secret (asBytes data))
  exact ⟨mac, by rw [Jwt.sign, computed]⟩

theorem validate_signed {head body sig : String} {secret payload : List UInt8} {claims : Claims}
    (inHead : '.' ∉ head.toList) (inBody : '.' ∉ body.toList)
    (signed : Jwt.sign crates (head ++ "." ++ body) secret = .ok sig) (decoded : crates.decode body = some payload)
    (read : crates.fromJson payload = some claims) (later : UInt64) :
    Jwt.validate crates later (head ++ "." ++ body ++ "." ++ sig) secret =
      if claims.exp < later then .error .expired else .ok claims := by
  have chars : (head ++ "." ++ body ++ "." ++ sig).toList =
      head.toList ++ '.' :: (body.toList ++ '.' :: sig.toList) := by
    simp [String.toList_append]
  rw [Jwt.validate, chars, splitn_two inHead inBody]
  simp only [String.ofList_toList, signed, bind, Except.bind, (constantTimeEq_iff _ _).mpr rfl, Bool.not_true, Bool.false_eq_true,
    if_false, decoded, read]

/-- An issued token is good for its claims until it expires. -/
theorem issue_validate (lawful : LawfulCrates crates) (secret : List UInt8) (now : UInt64) (sub : String)
    (ttlSecs : UInt64) :
    ∃ token, Jwt.issue crates now sub secret ttlSecs = .ok token ∧
      ∀ later, Jwt.validate crates later token secret =
        if now + ttlSecs < later then .error .expired else .ok ⟨sub, now, now + ttlSecs, jti sub now⟩ := by
  obtain ⟨payload, written⟩ := Option.isSome_iff_exists.mp (lawful.toJson ⟨sub, now, now + ttlSecs, jti sub now⟩)
  obtain ⟨mac, signed⟩ :=
    sign_ok lawful (crates.encode (asBytes Jwt.header) ++ "." ++ crates.encode (asBytes payload)) secret
  refine ⟨_, ?_, validate_signed (lawful.undotted _) (lawful.undotted _) signed (lawful.decode _)
    (lawful.fromJson _ _ written)⟩
  unfold jti at written
  simp only [Jwt.issue, written, signed, bind, Except.bind]

/-! ## The desk -/

def Good (crates : TokenCrates) (secret : String) (issued : Issued) : Prop :=
  ∃ exp, ∀ later, Jwt.validate crates later issued.token (asBytes secret) =
    if exp < later then .error .expired else .ok ⟨issued.sub, issued.now, exp, jti issued.sub issued.now⟩

/-- Issued tokens have their own subject and second, and the ids of revoked calls are revoked. -/
structure Kept (crates : TokenCrates) (secret : String) (s : TokenDesk) : Prop where
  good : ∀ issued ∈ s.issued, Good crates secret issued
  distinct : s.issued.Pairwise fun a b => ¬(a.sub = b.sub ∧ a.now = b.now)
  revoked : ∀ i ∈ s.revoked, ∃ issued, s.issued[i]? = some issued ∧ jti issued.sub issued.now ∈ s.auth.revoked

theorem kept_start (now : UInt64) : Kept crates secret (start now) := by
  refine ⟨fun issued member => ?_, .nil, fun i member => ?_⟩
  · cases member
  · cases member

theorem Good.jti_validate {issued : Issued} (good : Good crates secret issued) :
    (Jwt.validate crates 0 issued.token (asBytes secret)).toOption.map Claims.jti = some (jti issued.sub issued.now) := by
  obtain ⟨exp, read⟩ := good
  rw [read, if_neg UInt64.not_lt_zero]
  rfl

theorem Good.accepts_iff {issued : Issued} (good : Good crates secret issued) :
    ∃ exp, ∀ auth : AuthState,
      Accepts crates secret auth issued.token ↔ ¬exp < auth.now ∧ jti issued.sub issued.now ∉ auth.revoked := by
  obtain ⟨exp, read⟩ := good
  refine ⟨exp, fun auth => ?_⟩
  simp only [Accepts, Auth.validateWithSecret, Option.bind_some, read]
  by_cases late : exp < auth.now
  · simp [late, Except.toOption]
  · simp [late, Except.toOption]

theorem jtiOf_eq_some (good : ∀ issued ∈ s.issued, Good crates secret issued) {i : Nat} {id : String} :
    s.jtiOf crates secret i = some id ↔ ∃ issued, s.issued[i]? = some issued ∧ jti issued.sub issued.now = id := by
  unfold jtiOf tokenOf
  cases there : s.issued[i]? with
  | none => simp
  | some issued =>
      rw [Option.map_some, Option.bind_some, (good issued (List.mem_of_getElem? there)).jti_validate]
      simp

theorem tokenOf_eq_some {i : Nat} {token : String} :
    s.tokenOf i = some token ↔ ∃ issued, s.issued[i]? = some issued ∧ issued.token = token := by
  rw [tokenOf, Option.map_eq_some_iff]

theorem Kept.index_eq (kept : Kept crates secret s) {i j : Nat} {a b : Issued} (first : s.issued[i]? = some a)
    (second : s.issued[j]? = some b) (same : jti a.sub a.now = jti b.sub b.now) : i = j := by
  obtain ⟨inRange, rfl⟩ := List.getElem?_eq_some_iff.mp first
  obtain ⟨inRange', rfl⟩ := List.getElem?_eq_some_iff.mp second
  have equal := jti_inj.mp same
  rcases lt_trichotomy i j with before | here | after
  · exact absurd equal (List.pairwise_iff_getElem.mp kept.distinct i j inRange inRange' before)
  · exact here
  · exact absurd ⟨equal.1.symm, equal.2.symm⟩
      (List.pairwise_iff_getElem.mp kept.distinct j i inRange' inRange after)

theorem Kept.precise (kept : Kept crates secret s) : Precise crates secret s := by
  constructor
  · intro i j id first second
    obtain ⟨a, there, rfl⟩ := (jtiOf_eq_some kept.good).mp first
    obtain ⟨b, there', same⟩ := (jtiOf_eq_some kept.good).mp second
    exact kept.index_eq there there' same.symm
  · intro i j id token now different first second accepted
    obtain ⟨a, there, rfl⟩ := (jtiOf_eq_some kept.good).mp first
    obtain ⟨b, there', rfl⟩ := tokenOf_eq_some.mp second
    obtain ⟨exp, accepts⟩ := (kept.good b (List.mem_of_getElem? there')).accepts_iff
    rw [accepts] at accepted ⊢
    refine ⟨accepted.1, fun member => ?_⟩
    rcases (AList.mem_insert _).mp member with same | before
    · exact different (kept.index_eq there there' same.symm)
    · exact accepted.2 before
  · intro i member token found now accepted
    obtain ⟨a, there, gone⟩ := kept.revoked i member
    obtain ⟨b, there', rfl⟩ := tokenOf_eq_some.mp found
    cases there.symm.trans there'
    obtain ⟨exp, accepts⟩ := (kept.good a (List.mem_of_getElem? there)).accepts_iff
    exact ((accepts _).mp accepted).2 gone

theorem good_append {earlier : List Issued} {last : Issued} (good : ∀ issued ∈ earlier, Good crates secret issued)
    (new : Good crates secret last) : ∀ issued ∈ earlier ++ [last], Good crates secret issued := by
  intro issued member
  rcases List.mem_append.mp member with before | here
  · exact good issued before
  · cases List.mem_singleton.mp here
    exact new

inductive Moved (crates : TokenCrates) (secret : String) (s : TokenDesk) : TokenCall → TokenDesk → Prop
  | issued {now : UInt64} {sub : String} {ttlSecs : UInt64} {token : String} (good : Good crates secret ⟨sub, now, token⟩) :
      Moved crates secret s (.issue now sub ttlSecs) { s.advance now with issued := s.issued ++ [⟨sub, now, token⟩] }
  | revoked {call : Nat} {id : String} (found : s.jtiOf crates secret call = some id) :
      Moved crates secret s (.revoke call)
        { s with auth := Auth.revokeToken s.auth id, revoked := call :: s.revoked }
  | validated {now : UInt64} {token : Option String} : Moved crates secret s (.validate now token) (s.advance now)

theorem next_moved (lawful : LawfulCrates crates) (moved : s.next crates secret call = some s') :
    Moved crates secret s call s' := by
  cases call with
  | issue now sub ttlSecs =>
      obtain ⟨token, written, read⟩ := issue_validate lawful (asBytes secret) now sub ttlSecs
      simp only [TokenDesk.next, written] at moved
      split_ifs at moved
      cases moved
      exact .issued ⟨now + ttlSecs, read⟩
  | revoke call =>
      obtain ⟨id, found, rfl⟩ := Option.map_eq_some_iff.mp moved
      exact .revoked found
  | validate now token =>
      simp only [TokenDesk.next] at moved
      split_ifs at moved
      cases moved
      exact .validated

theorem Kept.next (kept : Kept crates secret s) (moved : Moved crates secret s call s') (new : NewSecond s call) :
    Kept crates secret s' := by
  cases moved with
  | issued good =>
      refine ⟨good_append kept.good good, ?_, fun i member => ?_⟩
      · refine List.pairwise_append.mpr ⟨kept.distinct, List.pairwise_singleton _ _, ?_⟩
        intro issued member last here
        cases List.mem_singleton.mp here
        exact new issued member
      · obtain ⟨issued, there, gone⟩ := kept.revoked i member
        refine ⟨issued, ?_, gone⟩
        exact (List.getElem?_append_left (List.getElem?_eq_some_iff.mp there).1).trans there
  | revoked found =>
      refine ⟨kept.good, kept.distinct, fun i member => ?_⟩
      rcases List.mem_cons.mp member with rfl | before
      · obtain ⟨issued, there, same⟩ := (jtiOf_eq_some kept.good).mp found
        exact ⟨issued, there, (AList.mem_insert _).mpr (.inl same)⟩
      · obtain ⟨issued, there, gone⟩ := kept.revoked i before
        exact ⟨issued, there, (AList.mem_insert _).mpr (.inr gone)⟩
  | validated => exact ⟨kept.good, kept.distinct, kept.revoked⟩

/-- A second token in the same second has the id of the first. -/
theorem Kept.duplicate (kept : Kept crates secret s) (moved : Moved crates secret s call s')
    (old : ¬NewSecond s call) : ¬Precise crates secret s' := by
  intro precise
  cases moved with
  | @issued now sub ttlSecs token good =>
      simp only [NewSecond, not_forall, not_not] at old
      obtain ⟨issued, member, rfl, rfl⟩ := old
      obtain ⟨i, inRange, rfl⟩ := List.getElem_of_mem member
      have all := good_append kept.good good
      have first : (s.issued ++ [⟨s.issued[i].sub, s.issued[i].now, token⟩])[i]? = some s.issued[i] := by
        rw [List.getElem?_append_left inRange, List.getElem?_eq_getElem inRange]
      have equal := precise.distinct i s.issued.length _ ((jtiOf_eq_some all).mpr ⟨_, first, rfl⟩)
        ((jtiOf_eq_some all).mpr ⟨_, List.getElem?_concat_length, rfl⟩)
      omega
  | revoked found => exact old trivial
  | validated => exact old trivial

/-- Revocation is precise iff no subject is issued two tokens in one second. -/
theorem precise_iff (lawful : LawfulCrates crates) (secret : String) (now : UInt64) (calls : List TokenCall)
    (runs : (Transition.run (TokenDesk.next crates secret) (start now) calls).isSome) :
    Transition.Always (Precise crates secret) (TokenDesk.next crates secret) (start now) calls ↔
      Transition.Respects NewSecond (TokenDesk.next crates secret) (start now) calls :=
  Transition.always_iff_respects (fun _ kept => kept.precise)
    (fun _ _ _ kept new moved => kept.next (next_moved lawful moved) new)
    (fun _ _ _ kept old moved => kept.duplicate (next_moved lawful moved) old) (kept_start now) runs

/-! ## Two tokens of one subject -/

section Tables
variable {α γ : Type} [DecidableEq α]

theorem lookup_mem {table : List (α × String)} {a : α} {text : String} (found : table.lookup a = some text) :
    (a, text) ∈ table := by
  obtain ⟨before, after, rfl, -⟩ := List.lookup_eq_some_iff.mp found
  exact List.mem_append_right before List.mem_cons_self

variable [Encodable α]

def unary (n : Nat) : String := String.ofList (List.replicate n '#')

-- the given texts, and others for all that is not in the table
def write (table : List (α × String)) (a : α) : String := (table.lookup a).getD (unary (Encodable.encode a))

def read [DecidableEq γ] (view : String → γ) (length : γ → Nat) (table : List (α × String)) (seen : γ) : Option α :=
  match table.find? (fun entry => view entry.2 = seen) with
  | some entry => some entry.1
  | none => Encodable.decode (length seen)

theorem read_write [DecidableEq γ] {view : String → γ} {length : γ → Nat} {table : List (α × String)}
    (injective : view.Injective) (counted : ∀ n, length (view (unary n)) = n) (texts : (table.map Prod.snd).Nodup)
    (apart : ∀ entry ∈ table, entry.2.toList.any (· ≠ '#')) (a : α) :
    read view length table (view (write table a)) = some a := by
  unfold read write
  cases found : table.lookup a with
  | some text =>
      rw [Option.getD_some]
      cases there : table.find? (fun entry => view entry.2 = view text) with
      | some entry =>
          have same : entry.2 = text := by
            have seen := List.find?_some there
            exact injective (of_decide_eq_true seen)
          have equal := List.inj_on_of_nodup_map texts (List.mem_of_find?_eq_some there) (lookup_mem found) same
          exact congrArg (fun entry : α × String => some entry.1) equal
      | none => exact absurd (decide_eq_true rfl) (List.find?_eq_none.mp there (a, text) (lookup_mem found))
  | none =>
      rw [Option.getD_none]
      have absent : table.find? (fun entry => view entry.2 = view (unary (Encodable.encode a))) = none := by
        refine List.find?_eq_none.mpr fun entry member same => ?_
        obtain ⟨c, here, other⟩ := List.any_eq_true.mp (apart entry member)
        rw [injective (of_decide_eq_true same), unary, String.toList_ofList] at here
        exact of_decide_eq_true other (List.eq_of_mem_replicate here)
      simp only [absent, counted, Encodable.encodek]

theorem undotted_write {table : List (α × String)} (texts : ∀ entry ∈ table, '.' ∉ entry.2.toList) (a : α) :
    '.' ∉ (write table a).toList := by
  unfold write
  cases found : table.lookup a with
  | some text => exact texts (a, text) (lookup_mem found)
  | none =>
      intro member
      rw [Option.getD_none, unary, String.toList_ofList] at member
      exact absurd (List.eq_of_mem_replicate member) (by decide)

end Tables

instance encodableUInt8 : Encodable UInt8 := .ofLeftInverse UInt8.toNat UInt8.ofNat fun _ => UInt8.ofNat_toNat

instance encodableUInt64 : Encodable UInt64 := .ofLeftInverse UInt64.toNat UInt64.ofNat fun _ => UInt64.ofNat_toNat

instance encodableChar : Encodable Char := .ofLeftInverse Char.toNat Char.ofNat Char.ofNat_toNat

instance encodableString : Encodable String := .ofLeftInverse String.toList String.ofList fun _ => String.ofList_toList

instance encodableClaims : Encodable Claims :=
  .ofLeftInverse (fun claims => (claims.sub, claims.iat, claims.exp, claims.jti))
    (fun fields => ⟨fields.1, fields.2.1, fields.2.2.1, fields.2.2.2⟩) fun _ => rfl

theorem asBytes_injective : asBytes.Injective := by
  intro a b same
  exact String.toByteArray_inj.mp (ByteArray.ext (Array.toList_inj.mp same))

theorem length_asBytes_unary (n : Nat) : (asBytes (unary n)).length = n := by
  have bytes : asBytes (unary n) = (List.replicate n '#').flatMap String.utf8EncodeChar := by
    simp [asBytes, unary, List.utf8Encode]
  have one : (String.utf8EncodeChar '#').length = 1 := rfl
  rw [bytes, List.length_flatMap, List.map_replicate, List.sum_replicate, one, smul_eq_mul, Nat.mul_one]

def key : String := "super-secret-test-key-32-bytes!!"

def head : String := "eyJhbGciOiJIUzI1NiIsInR5cCI6IkpXVCJ9"

def body1 : String := "eyJzdWIiOiJ1IiwiaWF0IjoxLCJleHAiOjM2MDEsImp0aSI6InUtMSJ9"

def body2 : String := "eyJzdWIiOiJ1IiwiaWF0IjoyLCJleHAiOjM2MDIsImp0aSI6InUtMiJ9"

def payload1 : String := "\x7b\"sub\":\"u\",\"iat\":1,\"exp\":3601,\"jti\":\"u-1\"\x7d"

def payload2 : String := "\x7b\"sub\":\"u\",\"iat\":2,\"exp\":3602,\"jti\":\"u-2\"\x7d"

def mac1 : List UInt8 :=
  [115, 169, 214, 103, 99, 255, 42, 115, 251, 240, 132, 199, 128, 46, 154, 240, 134, 249, 147, 199, 88, 224, 213, 59,
    169, 50, 48, 105, 221, 25, 251, 48]

def mac2 : List UInt8 :=
  [228, 81, 94, 15, 23, 135, 228, 40, 148, 176, 171, 153, 50, 53, 57, 252, 6, 215, 141, 188, 184, 103, 74, 136, 63,
    163, 17, 127, 254, 205, 160, 234]

def encoded : List (List UInt8 × String) :=
  [(asBytes Jwt.header, head), (asBytes payload1, body1), (asBytes payload2, body2),
    (mac1, "c6nWZ2P_KnP78ITHgC6a8Ib5k8dY4NU7qTIwad0Z-zA"), (mac2, "5FFeDxeH5CiUsKuZMjU5_AbXjby4Z0qIP6MRf_7NoOo")]

def payloads : List (Claims × String) := [(⟨"u", 1, 3601, "u-1"⟩, payload1), (⟨"u", 2, 3602, "u-2"⟩, payload2)]

-- the tokens that `u` is issued one and two seconds after the epoch, for an hour
def tokenCrates : TokenCrates where
  hmac := fun secret data =>
    if secret = asBytes key ∧ data = asBytes (head ++ "." ++ body1) then some mac1
    else if secret = asBytes key ∧ data = asBytes (head ++ "." ++ body2) then some mac2
    else some data
  encode := write encoded
  decode := read id String.length encoded
  toJson := fun claims => some (write payloads claims)
  fromJson := read asBytes List.length payloads

theorem lawful_tokenCrates : LawfulCrates tokenCrates := by
  constructor
  · exact read_write Function.injective_id (fun n => by simp [unary]) (by decide +kernel) (by decide +kernel)
  · exact undotted_write (by decide +kernel)
  · rintro claims text written
    cases written
    exact read_write asBytes_injective length_asBytes_unary (by decide +kernel) (by decide +kernel) claims
  · exact fun claims => rfl
  · intro secret data
    simp only [tokenCrates]
    split_ifs <;> rfl

theorem two_seconds_precise :
    (Transition.run (TokenDesk.next tokenCrates key) (start 1)
      [.issue 1 "u" 3600, .issue 2 "u" 3600, .revoke 0]).isSome ∧
    Transition.Always (Precise tokenCrates key) (TokenDesk.next tokenCrates key) (start 1)
      [.issue 1 "u" 3600, .issue 2 "u" 3600, .revoke 0] := by
  have runs : (Transition.run (TokenDesk.next tokenCrates key) (start 1)
      [.issue 1 "u" 3600, .issue 2 "u" 3600, .revoke 0]).isSome := by decide +kernel
  exact ⟨runs, (precise_iff lawful_tokenCrates key 1 _ runs).mpr (by decide +kernel)⟩

theorem one_second_runs :
    (Transition.run (TokenDesk.next tokenCrates key) (start 1) [.issue 1 "u" 3600, .issue 1 "u" 3600]).isSome := by
  decide +kernel

theorem one_second_shares_an_id :
    LawfulCrates tokenCrates ∧
    (Transition.run (TokenDesk.next tokenCrates key) (start 1) [.issue 1 "u" 3600, .issue 1 "u" 3600]).isSome ∧
    ¬Transition.Always (Precise tokenCrates key) (TokenDesk.next tokenCrates key) (start 1)
      [.issue 1 "u" 3600, .issue 1 "u" 3600] := by
  refine ⟨lawful_tokenCrates, one_second_runs, fun always => ?_⟩
  have precise := always.last (Option.some_get one_second_runs).symm
  have same := precise.distinct 0 1 "u-1" (by decide +kernel) (by decide +kernel)
  cases same

end LiveWorld.Proof.Revocation

import LiveWorld.Proof.Revocation
import LiveWorld.Spec.Http

/-!
# Requests and responses arrive as they were sent

No line of a head has a carriage return in it, so the first blank line is the one after the head.
-/

namespace LiveWorld.Proof.Http
open HashTable Separator Spec
variable {method path body : String} {headers : List String} {first : List Char} {lines : List (List Char)}

/-! ## Heads -/

/-- Lines that can stand in a head. -/
def Plain (lines : List (List Char)) : Prop := ∀ line ∈ lines, line ≠ [] ∧ '\r' ∉ line

theorem no_blankLine (start : '\r' ∉ first) (plain : Plain lines) :
    ¬blankLine <:+: joinLines first lines ++ blankLine.dropLast := by
  induction lines generalizing first with
  | nil =>
      intro found
      rw [joinLines, List.flatMap_nil, List.append_nil] at found
      have short := (infix_of_append start found).length_le
      revert short
      decide
  | cons line rest ih =>
      obtain ⟨⟨nonempty, clean⟩, others⟩ := List.forall_mem_cons.mp plain
      intro found
      rw [joinLines, List.flatMap_cons, List.append_assoc, List.append_assoc] at found
      rcases List.infix_cons_iff.mp (infix_of_append start found) with here | later
      · -- the line would have to begin with a carriage return
        obtain ⟨c, more, rfl⟩ := List.exists_cons_of_ne_nil nonempty
        simp only [blankLine, List.cons_append, List.append_eq, List.cons_prefix_cons, true_and] at here
        exact clean (here.1 ▸ List.mem_cons_self)
      · have clean' : '\r' ∉ '\n' :: line := by
          rw [List.mem_cons, not_or]
          exact ⟨by decide, clean⟩
        apply ih clean' others
        rw [joinLines, List.append_assoc]
        exact later

theorem breakOn_head (start : '\r' ∉ first) (plain : Plain lines) (rest : List Char) :
    breakOn blankLine (joinLines first lines ++ blankLine ++ rest) = some (joinLines first lines, rest) :=
  breakOn_append (List.cons_ne_nil _ _) (no_blankLine start plain)

/-! ## Requests -/

def startLine (method path : String) : List Char := (method ++ " " ++ path ++ " HTTP/1.1").toList

theorem startLine_eq (method path : String) :
    startLine method path = method.toList ++ ' ' :: (path.toList ++ ' ' :: "HTTP/1.1".toList) := by
  simp [startLine, String.toList_append]

theorem notMem_of_word {text : String} (word : IsWord text) {c : Char} (space : isWhiteSpace c = true) :
    c ∉ text.toList := by
  intro member
  rw [word.2 c member] at space
  cases space

theorem version_word : IsWord "HTTP/1.1" := ⟨by decide, by simp [isWhiteSpace]⟩

theorem notMem_startLine (verb : IsWord method) (target : IsWord path) {c : Char} (space : isWhiteSpace c = true)
    (other : c ≠ ' ') : c ∉ startLine method path := by
  rw [startLine_eq, List.mem_append, List.mem_cons, List.mem_append, List.mem_cons]
  rintro (one | same | two | same | three)
  · exact notMem_of_word verb space one
  · exact other same
  · exact notMem_of_word target space two
  · exact other same
  · exact notMem_of_word version_word space three

theorem splitWhitespace_startLine (verb : IsWord method) (target : IsWord path) :
    splitWhitespace (startLine method path) = [method.toList, path.toList, "HTTP/1.1".toList] := by
  have nonempty {text : String} (word : IsWord text) : text.toList ≠ [] :=
    fun empty => word.1 (String.toList_eq_nil_iff.mp empty)
  rw [startLine_eq, splitWhitespace, List.splitOnP_append_cons_of_forall_mem verb.2 ' ' (by decide),
    List.splitOnP_append_cons_of_forall_mem target.2 ' ' (by decide), List.splitOnP_eq_singleton version_word.2]
  simp [nonempty verb, nonempty target]

theorem joinLines_ending (first : List Char) (lines : List (List Char)) (rest : List Char) :
    ∃ more, joinLines first lines ++ blankLine ++ rest = first ++ '\r' :: '\n' :: more := by
  cases lines with
  | nil => exact ⟨'\r' :: '\n' :: rest, by simp [joinLines, blankLine]⟩
  | cons line others => exact ⟨_, by simp only [joinLines, List.flatMap_cons, List.append_assoc, List.cons_append]; rfl⟩

theorem firstLine_eq {more : List Char} (clean : '\n' ∉ first) :
    firstLine (first ++ '\r' :: '\n' :: more) = first := by
  have line : (first ++ '\r' :: '\n' :: more).takeWhile (fun c => decide (c ≠ '\n')) = first ++ ['\r'] := by
    rw [List.takeWhile_append_of_pos]
    · rfl
    · exact fun c member => decide_eq_true fun same => clean (same ▸ member)
  rw [firstLine, line, if_pos]
  · exact List.dropLast_concat
  · refine ⟨?_, List.getLast?_concat⟩
    simp

theorem parse_requestText (well : WellFormed method path headers body) :
    HttpRequest.parse (requestText method path headers body) = ⟨method, path, trim body⟩ := by
  have clean {c : Char} (space : isWhiteSpace c = true) (other : c ≠ ' ') : c ∉ startLine method path :=
    notMem_startLine well.verb well.target space other
  have plain : Plain (headers.map String.toList) := by
    intro line member
    obtain ⟨text, there, rfl⟩ := List.mem_map.mp member
    exact ⟨fun empty => (well.lines text there).1 (String.toList_eq_nil_iff.mp empty), (well.lines text there).2⟩
  have words : splitWhitespace (firstLine (requestText method path headers body).toList) =
      [method.toList, path.toList, "HTTP/1.1".toList] := by
    obtain ⟨more, split⟩ := joinLines_ending (startLine method path) (headers.map String.toList) body.toList
    rw [requestText, String.toList_ofList, ← startLine, split, firstLine_eq (clean (by decide) (by decide)),
      splitWhitespace_startLine well.verb well.target]
  have second : secondPart blankLine (requestText method path headers body).toList = some body.toList := by
    rw [requestText, String.toList_ofList, ← startLine]
    exact secondPart_append (List.cons_ne_nil _ _) (no_blankLine (clean (by decide) (by decide)) plain) well.oneBody
  rw [HttpRequest.parse, words, second]
  simp

theorem fromUtf8_asBytes (text : String) : fromUtf8 (asBytes text) = some text := by
  have valid : (⟨(asBytes text).toArray⟩ : ByteArray).IsValidUTF8 := text.isValidUTF8
  rw [fromUtf8, String.fromUTF8?, dif_pos valid]
  rfl

theorem length_asBytes (text : String) : (asBytes text).length = text.utf8ByteSize := rfl

theorem requestIn_requestText (well : WellFormed method path headers body) :
    requestIn (asBytes (requestText method path headers body)) = some ⟨method, path, trim body⟩ := by
  have whole : (asBytes (requestText method path headers body)).take 4096 = asBytes (requestText method path headers body) :=
    List.take_of_length_le (by rw [length_asBytes]; exact well.short)
  have nonempty : ¬(asBytes (requestText method path headers body)).isEmpty = true := by
    rw [List.isEmpty_iff]
    intro bytes
    have empty : requestText method path headers body = "" := by
      apply Revocation.asBytes_injective
      rw [bytes]
      rfl
    have chars := congrArg String.toList empty
    rw [requestText, String.toList_ofList] at chars
    simp [blankLine] at chars
  rw [requestIn, if_neg nonempty, whole, fromUtf8_asBytes, Option.getD_some, parse_requestText well]

theorem serveHttp_eq {received : List UInt8} {req : HttpRequest} (posted : requestIn received = some req)
    (host : HttpHost) (server : HttpServer) :
    server.serveHttp host received = (some (server.handleRequest host req).1.render, (server.handleRequest host req).2) := by
  unfold requestIn at posted
  split_ifs at posted with empty
  rw [Option.some.injEq] at posted
  simp only [HttpServer.serveHttp, if_neg empty, posted]

/-! ## Responses -/

/-- A line that is read as it was written. -/
def OneLine (line : List Char) : Prop := '\r' ∉ line ∧ '\n' ∉ line

theorem dropCr_ended (line : List Char) : dropCr (line ++ ['\r']) = line := by
  rw [dropCr, if_pos List.getLast?_concat, List.dropLast_concat]

theorem dropCr_oneLine {line : List Char} (one : OneLine line) : dropCr line = line := by
  rw [dropCr, if_neg]
  exact fun last => one.1 (List.mem_of_getLast? last)

theorem splitOn_joinLines (start : OneLine first) (others : ∀ line ∈ lines, OneLine line) :
    ((joinLines first lines).splitOn '\n').map dropCr = first :: lines := by
  induction lines generalizing first with
  | nil =>
      rw [joinLines, List.flatMap_nil, List.append_nil, List.splitOn_eq_singleton start.2]
      exact congrArg (fun line => [line]) (dropCr_oneLine start)
  | cons line rest ih =>
      obtain ⟨one, later⟩ := List.forall_mem_cons.mp others
      have split : joinLines first (line :: rest) = (first ++ ['\r']) ++ '\n' :: joinLines line rest := by
        simp [joinLines]
      have clean : '\n' ∉ first ++ ['\r'] := by
        rw [List.mem_append, not_or]
        exact ⟨start.2, by decide⟩
      rw [split, List.splitOn_append_cons_self_of_not_mem clean, List.map_cons, dropCr_ended, ih one later]

def headLines (r : HttpResponse) : List (List Char) :=
  [("Content-Type: " ++ r.contentType).toList, ("Content-Length: " ++ toString r.body.utf8ByteSize).toList,
    "Access-Control-Allow-Origin: *".toList, "Connection: close".toList]

theorem render_eq (r : HttpResponse) :
    r.render.toList = joinLines ("HTTP/1.1 " ++ r.status).toList (headLines r) ++ blankLine ++ r.body.toList := by
  simp [HttpResponse.render, headLines, joinLines, blankLine, String.toList_append]

theorem oneLine_append {front back : String} (one : OneLine front.toList) (two : OneLine back.toList) :
    OneLine (front ++ back).toList := by
  simp only [OneLine, String.toList_append, List.mem_append, not_or]
  exact ⟨⟨one.1, two.1⟩, one.2, two.2⟩

theorem oneLine_digits (n : Nat) : OneLine (toString n).toList := by
  have digit : ∀ c ∈ (toString n).toList, c.isDigit = true :=
    fun c member => Nat.isDigit_of_mem_toDigits (b := 10) (by decide) (by decide) (by simpa using member)
  constructor
  · intro member
    exact absurd (digit _ member) (by decide)
  · intro member
    exact absurd (digit _ member) (by decide)

theorem oneLine_headLines {r : HttpResponse} (type : OneLine r.contentType.toList) :
    ∀ line ∈ headLines r, OneLine line := by
  simp only [headLines, List.forall_mem_cons, List.not_mem_nil, false_imp_iff, implies_true, and_true]
  refine ⟨oneLine_append ?_ type, oneLine_append ?_ (oneLine_digits _), ?_, ?_⟩ <;> constructor <;> decide

theorem strip_append (front rest : List Char) : strip front (front ++ rest) = some rest := by
  rw [strip, if_pos (List.isPrefixOf_iff_prefix.mpr (List.prefix_append front rest)), List.drop_left]

theorem readResponse_render (r : HttpResponse) (status : OneLine r.status.toList) (type : OneLine r.contentType.toList) :
    readResponse r.render = some (r, (toString r.body.utf8ByteSize).toList) := by
  have start : OneLine ("HTTP/1.1 " ++ r.status).toList := oneLine_append (by constructor <;> decide) status
  have others := oneLine_headLines type
  have plain : Plain (headLines r) := by
    intro line member
    refine ⟨?_, (others line member).1⟩
    rintro rfl
    simp [headLines, String.toList_append] at member
  have head : strip "HTTP/1.1 ".toList ("HTTP/1.1 " ++ r.status).toList = some r.status.toList := by
    rw [String.toList_append, strip_append]
  have kind : strip "Content-Type: ".toList ("Content-Type: " ++ r.contentType).toList = some r.contentType.toList := by
    rw [String.toList_append, strip_append]
  have size : strip "Content-Length: ".toList ("Content-Length: " ++ toString r.body.utf8ByteSize).toList =
      some (toString r.body.utf8ByteSize).toList := by
    rw [String.toList_append, strip_append]
  have notType : strip "Content-Type: ".toList ("HTTP/1.1 " ++ r.status).toList = none := by
    simp [strip, String.toList_append, List.isPrefixOf]
  have notSize : strip "Content-Length: ".toList ("HTTP/1.1 " ++ r.status).toList = none := by
    simp [strip, String.toList_append, List.isPrefixOf]
  have notSize' : strip "Content-Length: ".toList ("Content-Type: " ++ r.contentType).toList = none := by
    simp [strip, String.toList_append, List.isPrefixOf]
  rw [readResponse, render_eq, breakOn_head start.1 plain]
  simp only [bind, Option.bind, splitOn_joinLines start others, List.head?_cons, head]
  simp only [headLines, List.findSome?_cons, notType, kind, notSize, notSize', size, String.ofList_toList]

theorem response_oneLine (host : HttpHost) (server : HttpServer) (req : HttpRequest) :
    OneLine (server.handleRequest host req).1.status.toList ∧ OneLine (server.handleRequest host req).1.contentType.toList := by
  have ok : OneLine "200 OK".toList := by constructor <;> decide
  have bad : OneLine "400 Bad Request".toList := by constructor <;> decide
  have missing : OneLine "404 Not Found".toList := by constructor <;> decide
  have json : OneLine "application/json".toList := by constructor <;> decide
  have text : OneLine "text/plain".toList := by constructor <;> decide
  have html : OneLine "text/html; charset=utf-8".toList := by constructor <;> decide
  have exposition : OneLine "text/plain; version=0.0.4; charset=utf-8".toList := by constructor <;> decide
  unfold HttpServer.handleRequest
  split
  · exact ⟨ok, exposition⟩
  · unfold HttpServer.issueToken
    split
    · exact ⟨bad, json⟩
    · split <;> exact ⟨ok, json⟩
  · unfold HttpServer.revoke
    split
    · exact ⟨bad, json⟩
    · exact ⟨ok, json⟩
  · exact ⟨ok, json⟩
  · exact ⟨ok, html⟩
  · exact ⟨ok, html⟩
  · exact ⟨missing, text⟩

/-- The client reads what `handle_request` answers to what it wrote, and the announced length is that of the body. -/
theorem exchange_round_trip (host : HttpHost) (server : HttpServer) (method path : String) (headers : List String)
    (body : String) (well : WellFormed method path headers body) :
    ((server.serveHttp host (asBytes (requestText method path headers body))).1.bind readResponse =
      some ((server.handleRequest host ⟨method, path, trim body⟩).1,
        (toString (server.handleRequest host ⟨method, path, trim body⟩).1.body.utf8ByteSize).toList)) ∧
    (server.serveHttp host (asBytes (requestText method path headers body))).2 =
      (server.handleRequest host ⟨method, path, trim body⟩).2 := by
  obtain ⟨status, type⟩ := response_oneLine host server ⟨method, path, trim body⟩
  rw [serveHttp_eq (requestIn_requestText well)]
  exact ⟨readResponse_render _ status type, rfl⟩

/-! ## Tokens -/

section Tokens
variable {host : HttpHost} {server later : HttpServer} {secret user : String}

theorem handleRequest_auth (host : HttpHost) (server : HttpServer) (req : HttpRequest) :
    (server.handleRequest host req).2.auth =
      ((revokedBy host.json req).map (Auth.revokeToken server.auth)).getD server.auth := by
  by_cases revokes : req.method = "POST" ∧ req.path = "/auth/revoke"
  · obtain ⟨verb, target⟩ := revokes
    simp only [HttpServer.handleRequest, verb, target, HttpServer.revoke, revokedBy, and_self, if_true]
    cases HttpServer.field host.json req.body "jti" <;> rfl
  · rw [revokedBy, if_neg revokes]
    unfold HttpServer.handleRequest
    split
    case h_3 verb target => exact absurd ⟨verb, target⟩ revokes
    all_goals rfl

theorem serveHttp_auth (host : HttpHost) (server : HttpServer) (received : List UInt8) :
    (server.serveHttp host received).2.auth =
      ((TokenStep.revokes host (.request received)).map (Auth.revokeToken server.auth)).getD server.auth := by
  by_cases empty : received.isEmpty = true
  · simp [HttpServer.serveHttp, TokenStep.revokes, requestIn, empty]
  · simp only [HttpServer.serveHttp, TokenStep.revokes, requestIn, if_neg empty, Option.bind_some]
    exact handleRequest_auth host server _

theorem mem_revoked_next {step : TokenStep} (moved : step.next host server = some later) (jti : String) :
    jti ∈ later.auth.revoked ↔ jti ∈ server.auth.revoked ∨ step.revokes host = some jti := by
  cases step with
  | request received =>
      cases moved
      rw [serveHttp_auth]
      cases TokenStep.revokes host (.request received) with
      | none => simp
      | some revoked =>
          change jti ∈ server.auth.revoked.insert revoked () ↔ _
          rw [AList.mem_insert, or_comm, Option.some.injEq, eq_comm]
  | clock now =>
      simp only [TokenStep.next] at moved
      split_ifs at moved
      cases moved
      simp [TokenStep.revokes]
  | world engine uptimeSecs counters =>
      cases moved
      simp [TokenStep.revokes]

theorem mem_revoked_run {steps : List TokenStep} (ran : Transition.run (TokenStep.next host) server steps = some later)
    (jti : String) :
    jti ∈ later.auth.revoked ↔ jti ∈ server.auth.revoked ∨ ∃ step ∈ steps, step.revokes host = some jti := by
  induction steps generalizing server with
  | nil =>
      cases ran
      simp
  | cons step rest ih =>
      obtain ⟨middle, moved, ran⟩ := Option.bind_eq_some_iff.mp ran
      rw [ih ran, mem_revoked_next moved, or_assoc, List.exists_mem_cons_iff]

/-! ### One token -/

theorem issued_unescaped (plain : PlainTokens host) {now : UInt64} {sub : String} {key : List UInt8} {ttl : UInt64}
    {token : String} (issued : Jwt.issue host.crates now sub key ttl = .ok token) : ∀ c ∈ token.toList, Unescaped c := by
  have dot : ∀ c ∈ ".".toList, Unescaped c := by
    intro c member
    obtain rfl : c = '.' := List.mem_singleton.mp member
    exact ⟨by decide, by decide, by decide⟩
  unfold Jwt.issue Jwt.sign at issued
  simp only [bind, Except.bind] at issued
  split at issued
  · rename_i payload _
    split at issued
    · cases issued
    · rename_i signature signed
      split at signed
      · rename_i mac _
        cases signed
        cases issued
        simp only [String.toList_append, List.forall_mem_append]
        exact ⟨⟨⟨⟨plain.encode _, dot⟩, plain.encode _⟩, dot⟩, plain.encode _⟩
      · cases signed
  · cases issued

theorem issueToken_validate (lawful : LawfulCrates host.crates) (set : Auth.jwtSecret host.env = some secret)
    (server : HttpServer) (user : String) :
    ∃ token, Auth.issueToken host.crates host.env host.parse server.auth user = some token ∧
      Jwt.issue host.crates server.auth.now user (asBytes secret) (ttlSecs host) = .ok token ∧
      ∀ later, Jwt.validate host.crates later token (asBytes secret) =
        if server.auth.now + ttlSecs host < later then .error .expired
        else .ok ⟨user, server.auth.now, server.auth.now + ttlSecs host, Revocation.jti user server.auth.now⟩ := by
  obtain ⟨token, issued, valid⟩ :=
    Revocation.issue_validate lawful (asBytes secret) server.auth.now user (ttlSecs host)
  refine ⟨token, ?_, issued, valid⟩
  rw [Auth.issueToken, set]
  change (Jwt.issue host.crates server.auth.now user (asBytes secret) (ttlSecs host)).toOption = _
  rw [issued]
  rfl

theorem presented_eq (plain : PlainTokens host) (set : Auth.jwtSecret host.env = some secret)
    (asked : (host.env.var "LIVEWORLD_TOKEN").isSome) {token : String} (unescaped : ∀ c ∈ token.toList, Unescaped c) :
    presented host later (HttpServer.tokenBody token) =
      if Auth.validateWithSecret host.crates later.auth (some token) (some secret) = true then .ok []
      else .error [.sendError 401 "Unauthorized"] := by
  have provided : ((host.json.value (HttpServer.tokenBody token)).bind fun v => (v.index "token").asStr) = some token := by
    rw [plain.value token unescaped]
    rfl
  rw [presented, Connection.authenticate, if_pos asked]
  simp only [provided, Auth.validateToken, set]
  cases Auth.validateWithSecret host.crates later.auth (some token) (some secret) <;> rfl

theorem validateWithSecret_eq {token jti : String} {claims : Claims} {exp : UInt64}
    (valid : ∀ now, Jwt.validate host.crates now token (asBytes secret) =
      if exp < now then .error .expired else .ok claims) (id : claims.jti = jti) (auth : AuthState) :
    Auth.validateWithSecret host.crates auth (some token) (some secret) = true ↔ auth.now ≤ exp ∧ jti ∉ auth.revoked := by
  simp only [Auth.validateWithSecret, Option.bind_some, valid]
  split_ifs with expired
  · refine iff_of_false (by simp [Except.toOption]) fun both => ?_
    exact absurd both.1 (UInt64.not_le.mpr expired)
  · simp [Except.toOption, id, UInt64.not_lt.mp expired]

theorem token_over_http (host : HttpHost) (lawful : LawfulCrates host.crates) (plain : PlainTokens host) (secret : String)
    (set : Auth.jwtSecret host.env = some secret) (asked : (host.env.var "LIVEWORLD_TOKEN").isSome) (server : HttpServer)
    (received : List UInt8) (body user : String) (posted : requestIn received = some ⟨"POST", "/auth/token", body⟩)
    (named : HttpServer.field host.json body "user_id" = some user) :
    ∃ answer, ((server.serveHttp host received).1.bind readResponse).map Prod.fst =
        some ⟨"200 OK", "application/json", answer⟩ ∧
      OpensUntil host (server.serveHttp host received).2 answer (user ++ "-" ++ toString server.auth.now.toNat)
        (server.auth.now + ttlSecs host) := by
  obtain ⟨token, issued, signed, valid⟩ := issueToken_validate lawful set server user
  have unescaped := issued_unescaped plain signed
  have answered : server.handleRequest host ⟨"POST", "/auth/token", body⟩ =
      (⟨"200 OK", "application/json", HttpServer.tokenBody token⟩, server) := by
    simp only [HttpServer.handleRequest, HttpServer.issueToken, named, issued]
  have served : server.serveHttp host received =
      (some (HttpResponse.render ⟨"200 OK", "application/json", HttpServer.tokenBody token⟩), server) := by
    rw [serveHttp_eq posted, answered]
  have head := response_oneLine host server ⟨"POST", "/auth/token", body⟩
  rw [answered] at head
  refine ⟨HttpServer.tokenBody token, ?_, ?_⟩
  · have read := readResponse_render ⟨"200 OK", "application/json", HttpServer.tokenBody token⟩ head.1 head.2
    simp only [served, Option.bind_some, read, Option.map_some]
  · rw [served]
    have accepts (later : HttpServer) := validateWithSecret_eq valid rfl later.auth
    constructor
    · intro steps later ran inTime fresh unrevoked
      rw [presented_eq plain set asked unescaped, if_pos]
      refine (accepts later).mpr ⟨inTime, ?_⟩
      rw [mem_revoked_run ran]
      rintro (before | ⟨step, member, revoked⟩)
      · exact fresh before
      · exact unrevoked step member revoked
    · intro steps later ran ended
      rw [presented_eq plain set asked unescaped, if_neg]
      intro accepted
      obtain ⟨inTime, unrevoked⟩ := (accepts later).mp accepted
      rw [mem_revoked_run ran, not_or] at unrevoked
      rcases ended with late | before | after
      · exact absurd inTime (UInt64.not_le.mpr late)
      · exact unrevoked.1 before
      · exact unrevoked.2 after

end Tokens

/-! ## A token for an hour -/

-- objects with one field, whose name and value need no escapes
def oneField (text : String) : Option Json := do
  let rest ← strip "\x7b\"".toList text.toList
  let name := rest.takeWhile (· ≠ '"')
  let rest ← strip "\":\"".toList (rest.dropWhile (· ≠ '"'))
  let value := rest.takeWhile (· ≠ '"')
  if rest.dropWhile (· ≠ '"') = "\"\x7d".toList then
    some (.object [(String.ofList name, .string (String.ofList value))])
  else none

def hourly : Env := fun name =>
  if name = "JWT_SECRET" then .value Revocation.key
  else if name = "LIVEWORLD_TOKEN" then .value "required"
  else if name = "JWT_TTL_SECS" then .value "3600"
  else .unset

def tokenHost : HttpHost where
  crates := Revocation.tokenCrates
  json := ⟨oneField, fun _ => .error "unknown variant"⟩
  env := hourly
  parse := fun text => if text = "3600" then some 3600 else none
  indexHtml := none

theorem takeWhile_unescaped {text : List Char} (unescaped : ∀ c ∈ text, Unescaped c) (rest : List Char) :
    (text ++ '"' :: rest).takeWhile (fun c => decide (c ≠ '"')) = text ∧
      (text ++ '"' :: rest).dropWhile (fun c => decide (c ≠ '"')) = '"' :: rest := by
  have passes : ∀ c ∈ text, decide (c ≠ '"') = true := fun c member => decide_eq_true (unescaped c member).1
  rw [List.takeWhile_append_of_pos passes, List.dropWhile_append_of_pos passes]
  simp

theorem oneField_tokenBody (text : String) (unescaped : ∀ c ∈ text.toList, Unescaped c) :
    oneField (HttpServer.tokenBody text) = some (.object [("token", .string text)]) := by
  have chars : (HttpServer.tokenBody text).toList =
      "\x7b\"".toList ++ ("token".toList ++ '"' :: (":\"".toList ++ (text.toList ++ '"' :: "\x7d".toList))) := by
    simp [HttpServer.tokenBody, String.toList_append]
  have name : ∀ c ∈ "token".toList, Unescaped c := by
    simp [Unescaped]
  obtain ⟨one, two⟩ := takeWhile_unescaped name (":\"".toList ++ (text.toList ++ '"' :: "\x7d".toList))
  obtain ⟨three, four⟩ := takeWhile_unescaped unescaped "\x7d".toList
  have colon : strip "\":\"".toList ('"' :: (":\"".toList ++ (text.toList ++ '"' :: "\x7d".toList))) =
      some (text.toList ++ '"' :: "\x7d".toList) := strip_append "\":\"".toList _
  simp only [oneField, chars, strip_append, bind, Option.bind, one, two, colon, three, four]
  simp

theorem unescaped_write {α : Type} [DecidableEq α] [Encodable α] {table : List (α × String)}
    (texts : ∀ entry ∈ table, entry.2.toList.all
      (fun c => decide (c ≠ '"') && decide (c ≠ '\\') && decide (32 ≤ c.toNat)) = true) (a : α) :
    ∀ c ∈ (Revocation.write table a).toList, Unescaped c := by
  unfold Revocation.write
  cases found : table.lookup a with
  | some text =>
      intro c member
      have fine := List.all_eq_true.mp (texts (a, text) (Revocation.lookup_mem found)) c member
      rw [Bool.and_eq_true, Bool.and_eq_true] at fine
      exact ⟨of_decide_eq_true fine.1.1, of_decide_eq_true fine.1.2, of_decide_eq_true fine.2⟩
  | none =>
      intro c member
      rw [Option.getD_none, Revocation.unary, String.toList_ofList] at member
      rw [List.eq_of_mem_replicate member]
      exact ⟨by decide, by decide, by decide⟩

theorem plain_tokenHost : PlainTokens tokenHost where
  encode := unescaped_write (by decide +kernel)
  value := oneField_tokenBody

def newServer (now : UInt64) : HttpServer := ⟨WorldEngine.new .default, 0, ⟨0, 0, 0⟩, ⟨now, ∅⟩⟩

def userBody : String := "\x7b\"user_id\":\"u\"\x7d"

theorem trim_userBody : trim userBody = userBody := by simp [trim, userBody, isWhiteSpace]

theorem wellFormed_userBody : WellFormed "POST" "/auth/token" ["Host: localhost:8080"] userBody where
  verb := ⟨by decide, by simp [isWhiteSpace]⟩
  target := ⟨by decide, by simp [isWhiteSpace]⟩
  lines := by simp
  oneBody := by decide +kernel
  short := by decide +kernel

theorem exchange_of_userBody :
    ∃ r length, ((newServer 1).serveHttp tokenHost
        (asBytes (requestText "POST" "/auth/token" ["Host: localhost:8080"] userBody))).1.bind readResponse =
      some (r, length) ∧ r.status = "200 OK" := by
  have exchanged := exchange_round_trip tokenHost (newServer 1) "POST" "/auth/token" ["Host: localhost:8080"] userBody
    wellFormed_userBody
  refine ⟨_, _, exchanged.1, ?_⟩
  rw [trim_userBody]
  decide +kernel

theorem token_opens_for_an_hour :
    ∃ answer, ((newServer 1).serveHttp tokenHost
        (asBytes (requestText "POST" "/auth/token" ["Host: localhost:8080"] userBody))).1.bind readResponse ≠ none ∧
      OpensUntil tokenHost (newServer 1) answer "u-1" 3601 := by
  have posted := requestIn_requestText wellFormed_userBody
  rw [trim_userBody] at posted
  obtain ⟨answer, read, opens⟩ := token_over_http tokenHost Revocation.lawful_tokenCrates plain_tokenHost Revocation.key
    (by decide +kernel) (by decide +kernel) (newServer 1) _ userBody "u" posted (by decide +kernel)
  refine ⟨answer, fun nothing => ?_, ?_⟩
  · rw [nothing] at read
    cases read
  · have same : ((newServer 1).handleRequest tokenHost ⟨"POST", "/auth/token", userBody⟩).2 = newServer 1 := rfl
    have exp : (newServer 1).auth.now + ttlSecs tokenHost = 3601 := by decide +kernel
    rw [serveHttp_eq posted, exp] at opens
    change OpensUntil tokenHost ((newServer 1).handleRequest tokenHost _).2 answer "u-1" 3601 at opens
    rw [same] at opens
    exact opens

end LiveWorld.Proof.Http

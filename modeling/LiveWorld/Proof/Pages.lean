import LiveWorld.Proof.Engine.Awake
import LiveWorld.Proof.Isolation
import LiveWorld.Spec.Pages

/-!
# Pages and the server agree

The actor of a session is a token. The task makes it when the reply comes, announces it to the page, and takes it back
when the page sends its end; it is never at two places.
-/

namespace LiveWorld.Proof.Pages
open HashTable Spec Lobby Proof.Engine Proof.Sessions
variable {cfg : WorldConfig} {stored : Except SnapshotError (Option WorldSnapshot)} {l l' : Lobby} {session : SessionId}
  {seat : Seat} {task : ConnectionTask} {owner : Option ActorId} {pending : List EngineCommand} {refused registered : Prop}

/-! ## One session -/

/-- `owner` is who the engine has for the session, and `pending` what the processor has still to handle for it. -/
structure Kept (owner : Option ActorId) (pending : List EngineCommand) (refused : Prop) (seat : Seat)
    (task : ConnectionTask) : Prop where
  heard : seat.heard ≤ task.out.length
  named : ∀ id ∈ shownBy seat task, owner = some id
  once : holdings seat task ≤ if task.hasActor then 1 else 0
  kept : ¬refused → holdings seat task = if task.hasActor then 1 else 0
  connected : task.phase ≠ .closed
  waits : ∀ reply, task.phase = .awaitingReply reply → task.hasActor = false
  replied : ∀ id, task.phase = .awaitingReply (some (.ok id)) → owner = some id
  lasts : task.hasActor = true → ¬Ends pending

theorem Kept.nothing (inv : Kept owner pending refused seat task) (free : task.hasActor = false) :
    shownBy seat task = [] ∧ seat.sent.countP isDestroy = 0 := by
  have none := inv.once
  rw [free] at none
  obtain ⟨shown, gone⟩ := Nat.add_eq_zero_iff.mp (Nat.le_zero.mp none)
  exact ⟨List.length_eq_zero_iff.mp shown, gone⟩

theorem Kept.held (inv : Kept owner pending refused seat task) (some : 0 < holdings seat task) : task.hasActor = true := by
  cases owns : task.hasActor with
  | true => rfl
  | false =>
      have none := inv.once
      rw [owns] at none
      exact absurd (Nat.le_zero.mp none) (Nat.ne_of_gt some)

theorem Kept.single (inv : Kept owner pending refused seat task) : holdings seat task ≤ 1 := by
  refine inv.once.trans ?_
  split_ifs
  · exact le_refl 1
  · exact Nat.zero_le 1

theorem shownBy_say (heard : seat.heard ≤ task.out.length) {later : ConnectionTask} {msg : ServerMessage}
    (said : later.out = task.out ++ [msg]) : shownBy seat later = shownBy seat task ++ (announces msg).toList := by
  rw [shownBy, shownBy, said, List.drop_append_of_le_length heard, List.filterMap_append, List.append_assoc]
  cases found : announces msg with
  | none => simp [found]
  | some id => simp [found]

/-- What a task does that keeps its actor and announces nothing, while the page does nothing. -/
theorem Kept.speak (inv : Kept owner pending refused seat task) {later : ConnectionTask} (msgs : List ServerMessage)
    {sent : List EngineCommand} (said : later.out = task.out ++ msgs) (silent : ∀ msg ∈ msgs, announces msg = none)
    (same : later.hasActor = task.hasActor) (connected : later.phase ≠ .closed)
    (waits : ∀ reply, later.phase = .awaitingReply reply → task.hasActor = false)
    (replied : ∀ id, later.phase = .awaitingReply (some (.ok id)) → owner = some id)
    (lasts : task.hasActor = true → ¬Ends sent) : Kept owner sent refused seat later := by
  have shown : shownBy seat later = shownBy seat task := by
    rw [shownBy, shownBy, said, List.drop_append_of_le_length inv.heard, List.filterMap_append,
      List.filterMap_eq_nil_iff.mpr silent, List.append_nil]
  have holds : holdings seat later = holdings seat task := by rw [holdings, holdings, shown]
  refine ⟨?_, ?_, ?_, ?_, connected, ?_, replied, ?_⟩
  · rw [said, List.length_append]
    exact inv.heard.trans (Nat.le_add_right _ _)
  · rw [shown]
    exact inv.named
  · rw [holds, same]
    exact inv.once
  · rw [holds, same]
    exact inv.kept
  · rw [same]
    exact waits
  · rw [same]
    exact lasts

/-! ## The page -/

theorem act_cases (page : Page) (action : PageAction) :
    ((page.act action).1.myActorId = page.myActorId ∧ ∀ cmd ∈ (page.act action).2, isDestroy cmd = false) ∨
      ∃ id, page.myActorId = some id ∧ (page.act action).1.myActorId = none ∧ (page.act action).2 = some (.DestroyActor id) := by
  cases action with
  | joinWorld form one two =>
      left
      simp only [Page.act]
      split_ifs
      · exact ⟨rfl, fun cmd sent => by cases sent⟩
      all_goals
        refine ⟨rfl, fun cmd sent => ?_⟩
        cases sent
        rfl
  | leaveWorld =>
      simp only [Page.act]
      split_ifs
      · exact .inl ⟨rfl, fun cmd sent => by cases sent⟩
      · cases mine : page.myActorId with
        | none => exact .inl ⟨mine, fun cmd sent => by cases sent⟩
        | some id => exact .inr ⟨id, rfl, rfl, rfl⟩
  | sendChat value =>
      left
      simp only [Page.act]
      cases mine : page.myActorId with
      | none => exact ⟨mine, fun cmd sent => by cases sent⟩
      | some id =>
          refine ⟨mine, fun cmd sent => ?_⟩
          simp only at sent
          split_ifs at sent
          · cases sent
          · cases sent
            rfl
  | onMapClick col row occupied =>
      left
      simp only [Page.act]
      split_ifs
      · exact ⟨rfl, fun cmd sent => by cases sent⟩
      · cases mine : page.myActorId with
        | none => exact ⟨mine, fun cmd sent => by cases sent⟩
        | some id =>
            refine ⟨mine, fun cmd sent => ?_⟩
            cases sent
            rfl

/-- The page may hand on what it holds. -/
theorem Kept.page (inv : Kept owner pending refused seat task) {later : Seat} (heard : later.heard ≤ task.out.length)
    (shown : ∀ id ∈ shownBy later task, id ∈ shownBy seat task) (same : holdings later task = holdings seat task) :
    Kept owner pending refused later task := by
  refine ⟨heard, fun id member => inv.named id (shown id member), ?_, ?_, inv.connected, inv.waits, inv.replied, inv.lasts⟩
  · rw [same]
    exact inv.once
  · rw [same]
    exact inv.kept

theorem Kept.act (inv : Kept owner pending refused seat task) (action : PageAction) :
    Kept owner pending refused
      { seat with page := (seat.page.act action).1, sent := seat.sent ++ (seat.page.act action).2.toList } task := by
  rcases act_cases seat.page action with ⟨same, stays⟩ | ⟨id, mine, gone, sent⟩
  · refine inv.page inv.heard (fun id member => ?_) ?_
    · rw [shownBy, same] at member
      exact member
    · have none : (seat.page.act action).2.toList.countP isDestroy = 0 := by
        rw [List.countP_eq_zero]
        intro cmd member
        rw [stays cmd (Option.mem_toList.mp member)]
        exact Bool.false_ne_true
      rw [holdings, shownBy, same, List.countP_append, none]
      rfl
  · refine inv.page inv.heard (fun id member => ?_) ?_
    · rw [shownBy, gone] at member
      exact List.mem_append_right _ member
    · rw [holdings, holdings, shownBy, shownBy, gone, sent, mine, List.countP_append]
      simp [isDestroy]
      omega

theorem Kept.hear (inv : Kept owner pending refused seat task) {msg : ServerMessage} (said : task.out[seat.heard]? = some msg) :
    Kept owner pending refused { seat with page := seat.page.handleMsg msg, heard := seat.heard + 1 } task := by
  obtain ⟨bound, here⟩ := List.getElem?_eq_some_iff.mp said
  have rest : task.out.drop seat.heard = msg :: task.out.drop (seat.heard + 1) := by
    rw [List.drop_eq_getElem_cons bound, here]
  have same : shownBy { seat with page := seat.page.handleMsg msg, heard := seat.heard + 1 } task = shownBy seat task := by
    have one : (shownBy seat task).length ≤ 1 := (Nat.le_add_right _ _).trans inv.single
    rw [shownBy, shownBy, rest]
    rw [shownBy, rest] at one
    cases msg with
    | ActorCreated id =>
        cases mine : seat.page.myActorId with
        | none => rfl
        | some other =>
            rw [mine] at one
            simp [announces] at one
    | Error code message =>
        simp only [Page.handleMsg]
        split_ifs <;> rfl
    | WorldDelta | WorldEvent => rfl
  refine inv.page bound (fun id member => ?_) ?_
  · rw [same] at member
    exact member
  · rw [holdings, same]
    rfl

/-! ## The task -/

theorem ends_append {earlier : List EngineCommand} {cmd : EngineCommand} (other : kind cmd ≠ .destroy)
    (ends : Ends (earlier ++ [cmd])) : Ends earlier := by
  obtain ⟨last, member, destroys⟩ := ends
  rcases List.mem_append.mp member with old | new
  · exact ⟨last, old, destroys⟩
  · rw [List.mem_singleton.mp new] at destroys
    exact absurd destroys other

/-- The page has sent one command less. -/
theorem Kept.sent (inv : Kept owner pending refused seat task) {cmd : ClientCommand} {rest : List ClientCommand}
    (queue : seat.sent = cmd :: rest) (other : isDestroy cmd = false) :
    Kept owner pending refused { seat with sent := rest } task := by
  refine inv.page inv.heard (fun id member => member) ?_
  rw [holdings, holdings, queue, List.countP_cons_of_neg (by simp [other])]
  rfl

theorem Kept.read (inv : Kept owner pending refused seat task) {cmd : ClientCommand} {rest : List ClientCommand}
    (queue : seat.sent = cmd :: rest) (reading : task.phase = .reading) (session : SessionId) :
    Kept owner (pending ++ (task.handleClientCommand session cmd).2.toList) refused { seat with sent := rest }
      (task.handleClientCommand session cmd).1 := by
  have message {sent : EngineCommand} (other : kind sent ≠ .destroy) (stays : isDestroy cmd = false) :
      Kept owner (pending ++ [sent]) refused { seat with sent := rest } task := by
    have later := inv.sent queue stays
    exact { later with lasts := fun owns ends => inv.lasts owns (ends_append other ends) }
  cases cmd with
  | CreateActor name personality backstory model position role faction =>
      have later := inv.sent queue rfl
      simp only [ConnectionTask.handleClientCommand]
      cases owns : task.hasActor with
      | true =>
          rw [if_pos rfl, Option.toList_none, List.append_nil]
          refine later.speak [_] rfl ?_ rfl later.connected later.waits later.replied later.lasts
          exact fun msg member => List.mem_singleton.mp member ▸ rfl
      | false =>
          refine later.speak [] (List.append_nil _).symm (fun _ member => absurd member List.not_mem_nil) owns.symm
            ?_ ?_ ?_ ?_
          · exact TaskPhase.noConfusion
          · exact fun _ _ => owns
          · exact fun id phase => by cases phase
          · exact fun has => absurd (has.symm.trans owns) Bool.true_eq_false.mp
  | MoveActor actorId dest => exact message (fun same => by cases same) rfl
  | ChatActor actorId text => exact message (fun same => by cases same) rfl
  | DestroyActor actorId =>
      have before : holdings seat task = (shownBy seat task).length + (rest.countP isDestroy + 1) := by
        rw [holdings, queue, List.countP_cons_of_pos rfl]
      have one := inv.single
      have nobody : shownBy seat task = [] := List.length_eq_zero_iff.mp (by omega)
      have after : holdings { seat with sent := rest } { task with pumpTask := false, hasActor := false } = 0 := by
        change (shownBy seat task).length + rest.countP isDestroy = 0
        omega
      refine ⟨inv.heard, ?_, le_of_eq after, fun _ => after, inv.connected, fun _ _ => rfl, ?_, ?_⟩
      · change ∀ id ∈ shownBy seat task, owner = some id
        rw [nobody]
        exact fun id member => absurd member List.not_mem_nil
      · exact fun id phase => absurd (reading.symm.trans phase) TaskPhase.noConfusion
      · exact fun has => absurd has Bool.false_ne_true

theorem Kept.refuse (inv : Kept owner pending refused seat task) {cmd : ClientCommand} {rest : List ClientCommand}
    (queue : seat.sent = cmd :: rest) {dropped : Prop} (given : dropped) :
    Kept owner pending dropped { seat with sent := rest } (task.sendError 429 "Rate limit exceeded") := by
  have silent : shownBy { seat with sent := rest } (task.sendError 429 "Rate limit exceeded") = shownBy seat task :=
    (shownBy_say inv.heard rfl).trans (List.append_nil _)
  refine ⟨?_, ?_, ?_, fun never => absurd given never, inv.connected, inv.waits, inv.replied, inv.lasts⟩
  · exact inv.heard.trans (by simp [ConnectionTask.sendError])
  · rw [silent]
    exact inv.named
  · have fewer : rest.countP isDestroy ≤ seat.sent.countP isDestroy := by
      rw [queue]
      exact (List.sublist_cons_self cmd rest).countP_le
    refine le_trans ?_ inv.once
    rw [holdings, silent]
    exact Nat.add_le_add_left fewer _

theorem Kept.resume (inv : Kept owner pending refused seat task) {reply : Except String ActorId}
    (waiting : task.phase = .awaitingReply (some reply)) (settled : pending = []) :
    Kept owner pending refused seat (task.receiveReply reply) := by
  cases reply with
  | error e =>
      refine inv.speak [.Error 400 e] rfl ?_ rfl TaskPhase.noConfusion ?_ ?_ inv.lasts
      · exact fun msg member => List.mem_singleton.mp member ▸ rfl
      · exact fun reply phase => by cases phase
      · exact fun id phase => by cases phase
  | ok id =>
      obtain ⟨nobody, none⟩ := inv.nothing (inv.waits _ waiting)
      have shown : shownBy seat (task.receiveReply (.ok id)) = [id] := by
        rw [shownBy_say inv.heard (rfl : _ = task.out ++ [.ActorCreated id]), nobody]
        rfl
      have one : holdings seat (task.receiveReply (.ok id)) = 1 := by rw [holdings, shown, none, List.length_singleton]
      refine ⟨?_, ?_, le_of_eq one, fun _ => one, TaskPhase.noConfusion, ?_, ?_, ?_⟩
      · exact inv.heard.trans (by simp [ConnectionTask.receiveReply])
      · rw [shown]
        intro other member
        rw [List.mem_singleton.mp member]
        exact inv.replied id waiting
      · exact fun reply phase => by cases phase
      · exact fun id phase => by cases phase
      · intro _ ends
        exact not_ends_nil (settled ▸ ends)

/-! ## The processor -/

/-- A session that has no actor, and is about to have one or not. -/
theorem Kept.vacant (inv : Kept owner pending refused seat task) (free : task.hasActor = false) {owner' : Option ActorId}
    {left : List EngineCommand} {later : ConnectionTask} (said : later.out = task.out)
    (same : later.hasActor = task.hasActor) (connected : later.phase ≠ .closed)
    (replied : ∀ id, later.phase = .awaitingReply (some (.ok id)) → owner' = some id) :
    Kept owner' left refused seat later := by
  obtain ⟨nobody, none⟩ := inv.nothing free
  have shown : shownBy seat later = [] := by
    rw [shownBy, said]
    exact nobody
  have zero : holdings seat later = 0 := by rw [holdings, shown, none, List.length_nil]
  refine ⟨?_, ?_, ?_, fun _ => ?_, connected, fun _ _ => same.trans free, replied, fun has => ?_⟩
  · rw [said]
    exact inv.heard
  · rw [shown]
    exact fun id member => absurd member List.not_mem_nil
  · rw [zero]
    exact Nat.zero_le _
  · rw [zero, same, free]
    rfl
  · exact absurd (has.symm.trans (same.trans free)) Bool.true_eq_false.mp

theorem settled_of_replied (turn : Turn registered (some task) pending) {reply : Except String ActorId}
    (waiting : task.phase = .awaitingReply (some reply)) : pending = [] := by
  cases turn with
  | replied | left => rfl
  | reading phase | creating phase | leaving phase =>
      rw [waiting] at phase
      cases phase

/-- The task of a session once a command of it has been handled. -/
def answered (task : ConnectionTask) (reply : Option (Except String ActorId)) : ConnectionTask :=
  (reply.map task.answer).getD task

theorem answered_waiting (phase : task.phase = .awaitingReply none) (reply : Except String ActorId) :
    answered task (some reply) = { task with phase := .awaitingReply (some reply) } := by
  rw [answered, Option.map_some, Option.getD_some, ConnectionTask.answer, phase]

theorem tasks_handled {s : Service} {cmd : EngineCommand} {rest : List EngineCommand} {ord : Order}
    (found : s.tasks cmd.session = some task) :
    (s.handled ord cmd rest).tasks cmd.session = some (answered task (s.server.process ord cmd).1) := by
  unfold Service.handled
  generalize s.server.process ord cmd = outcome
  obtain ⟨reply, server⟩ := outcome
  cases reply with
  | none => exact found
  | some reply =>
      simp only [Service.deliver, found]
      exact Function.update_self _ _ _

theorem server_handled (s : Service) (ord : Order) (cmd : EngineCommand) (rest : List EngineCommand) :
    (s.handled ord cmd rest).server = (s.server.process ord cmd).2 ∧ (s.handled ord cmd rest).channel = rest := by
  unfold Service.handled
  generalize s.server.process ord cmd = outcome
  obtain ⟨reply, server⟩ := outcome
  obtain ⟨tasks, delivered, -⟩ := deliver_frame
    { s with
      server
      channel := rest
      spawned := ((Service.created reply).map fun id => (cmd.session, id)).toList ++ s.spawned
      disconnected := (Service.leaver cmd).toList ++ s.disconnected
      issued := (Service.created reply).toList ++ s.issued } cmd.session reply
  simp only
  rw [delivered]
  exact ⟨rfl, rfl⟩

theorem Kept.process {server : Server} {cmd : EngineCommand}
    (inv : Kept (server.engine.sessionToActor.lookup cmd.session) (cmd :: pending) refused seat task)
    (turn : Turn registered (some task) (cmd :: pending)) (ord : Order) :
    Kept ((server.process ord cmd).2.engine.sessionToActor.lookup cmd.session) pending refused seat
      (answered task (server.process ord cmd).1) := by
  have turned := turn.turned
  have result := processed server ord cmd
  generalize server.process ord cmd = outcome at result
  generalize called : kind cmd = sort at result turned
  have onward {owner : Option ActorId} (same : owner = server.engine.sessionToActor.lookup cmd.session) :
      Kept owner pending refused seat task := by
    subst same
    refine { inv with lasts := fun owns ends => inv.lasts owns ?_ }
    obtain ⟨last, member, destroys⟩ := ends
    exact ⟨last, List.mem_cons_of_mem cmd member, destroys⟩
  cases result with
  | refused e =>
      obtain ⟨-, -, waiting, same, phase⟩ := turned
      cases same
      rw [answered_waiting phase]
      exact inv.vacant (inv.waits _ phase) rfl rfl TaskPhase.noConfusion fun id same => by cases same
  | opened spec cacheKey llmCaches numbered =>
      obtain ⟨-, -, waiting, same, phase⟩ := turned
      cases same
      rw [answered_waiting phase]
      refine inv.vacant (inv.waits _ phase) rfl rfl TaskPhase.noConfusion fun id same => ?_
      cases same
      exact AList.lookup_insert server.engine.sessionToActor
  | dropped => exact onward rfl
  | sent handle msg held =>
      apply onward
      rw [(effected_send server.engine handle msg).undisturbed.owners]
  | destroyed =>
      have free : task.hasActor = false := by
        cases owns : task.hasActor with
        | false => rfl
        | true => exact absurd ⟨cmd, List.mem_cons_self, called⟩ (inv.lasts owns)
      refine inv.vacant free rfl rfl inv.connected fun id waiting => ?_
      exact absurd (settled_of_replied turn waiting) (List.cons_ne_nil _ _)
  | disconnected =>
      obtain ⟨-, leaving, same, closed⟩ := turned
      cases same
      exact absurd closed inv.connected

/-! ## The engine -/

structure Housed (server : Server) : Prop where
  awake : Awake server.engine
  routes : ∀ session handle, server.sessionHandles.lookup session = some handle →
    server.engine.sessionToActor.lookup session = some handle.id
  lives : ∀ session id, server.engine.sessionToActor.lookup session = some id → id ∈ server.engine.runtime.actors

section Housed
variable {server : Server} {engine : WorldEngine}

theorem Housed.quiet (inv : Housed server) (awake : Awake engine)
    (owners : engine.sessionToActor = server.engine.sessionToActor)
    (live : ∀ id ∈ server.engine.runtime.actors, id ∈ engine.runtime.actors) : Housed { server with engine } := by
  refine ⟨awake, fun session handle held => ?_, fun session id owned => ?_⟩
  · change engine.sessionToActor.lookup session = _
    rw [owners]
    exact inv.routes session handle held
  · change engine.sessionToActor.lookup session = _ at owned
    rw [owners] at owned
    exact live id (inv.lives session id owned)

theorem Housed.send (inv : Housed server) (handle : ActorHandle) {msg : ActorMessage} (running : msg ≠ .Shutdown) :
    Housed { server with engine := (server.engine.send handle msg).2 } := by
  have effected := effected_send server.engine handle msg
  refine inv.quiet (inv.awake.timeless (.send handle msg) ?_ rfl) effected.undisturbed.owners fun id live => ?_
  · intro other sent
    cases sent
    exact running
  · rw [effected.actors]
    exact live

theorem Housed.opened (inv : Housed server) (ord : Order) (session : SessionId) (spec : ActorSpec)
    (cacheKey : Option String) (llmCaches : HashMap String LlmModel) :
    Housed (opened server ord session spec cacheKey llmCaches) := by
  refine ⟨inv.awake.timeless (.spawnActorForSession ord spec session) (fun _ sent => by cases sent) rfl,
    fun other handle held => ?_, fun other id owned => ?_⟩
  · change (server.sessionHandles.insert session _).lookup other = some handle at held
    change (server.engine.sessionToActor.insert session spec.id).lookup other = _
    rw [HashMap.lookup_insert_eq] at held ⊢
    split_ifs at held ⊢
    · cases held
      rfl
    · exact inv.routes other handle held
  · change (server.engine.sessionToActor.insert session spec.id).lookup other = _ at owned
    change id ∈ (server.engine.runtime.spawnActor spec).2.actors
    have either : id = spec.id ∨ id ∈ server.engine.runtime.actors := by
      rw [HashMap.lookup_insert_eq] at owned
      split_ifs at owned
      · exact .inl (Option.some.inj owned).symm
      · exact .inr (inv.lives other id owned)
    exact (AList.mem_insert _).mpr either

theorem Housed.endSession (inv : Housed server) (session : SessionId)
    (sole : ∀ other id, server.engine.sessionToActor.lookup session = some id →
      server.engine.sessionToActor.lookup other = some id → other = session) : Housed (server.endSession session) := by
  refine ⟨inv.awake.timeless (.removeSession session true) (fun _ sent => by cases sent) rfl,
    fun other handle held => ?_, fun other id owned => ?_⟩
  · change (server.sessionHandles.erase session).lookup other = some handle at held
    change (server.engine.removeSession session true).sessionToActor.lookup other = _
    rw [HashMap.lookup_erase_eq] at held
    rw [removeSession_owners]
    split_ifs at held ⊢
    exact inv.routes other handle held
  · change (server.engine.removeSession session true).sessionToActor.lookup other = _ at owned
    rw [removeSession_owners] at owned
    split_ifs at owned with different
    obtain ⟨actor, found⟩ := HashMap.lookup_of_mem (inv.lives other id owned)
    apply HashMap.mem_of_lookup (v := actor)
    change (server.engine.removeSession session true).runtime.actors.lookup id = _
    rw [removeSession_lookup, if_neg, found]
    exact fun mine => different (sole other id mine.2 owned)

theorem Housed.sendTo (inv : Housed server) (session : SessionId) {msg : ActorMessage} (running : msg ≠ .Shutdown) :
    Housed (server.sendTo session msg) := by
  unfold Server.sendTo
  cases server.sessionHandles.lookup session with
  | none => exact inv
  | some handle => exact inv.send handle running

theorem Housed.process {spawned : List (SessionId × ActorId)} {issued : List ActorId} (inv : Housed server)
    (books : Booked server spawned issued) (ord : Order) (cmd : EngineCommand) : Housed (server.process ord cmd).2 := by
  cases cmd with
  | CreateActor session name personality backstory model position role faction =>
      have result := processed server ord (.CreateActor session name personality backstory model position role faction)
      generalize server.process ord (.CreateActor session name personality backstory model position role faction) =
        outcome at result
      cases result with
      | refused e => exact inv
      | opened spec cacheKey llmCaches numbered => exact inv.opened ord session spec cacheKey llmCaches
  | MoveActor session dest => exact inv.sendTo session ActorMessage.noConfusion
  | ChatActor session text =>
      simp only [Server.process]
      split_ifs
      · exact inv
      · exact inv.sendTo session ActorMessage.noConfusion
  | DestroyActor session _ | SessionDisconnect session =>
      exact inv.endSession session fun other id mine owned =>
        books.sole other session id (books.recorded other id owned) (books.recorded session id mine)

theorem awake_residents (awake : Awake server.engine) (specs : List ActorSpec) :
    Awake (specs.foldl Server.spawnResident server).engine := by
  induction specs generalizing server with
  | nil => exact awake
  | cons spec rest ih =>
      apply ih
      exact awake.timeless (.spawnActorStandalone spec) (fun msg sent => by cases sent) rfl

theorem housed_boot (cfg : WorldConfig) (stored : Except SnapshotError (Option WorldSnapshot)) :
    Housed (Server.boot cfg stored) := by
  have cold := cold_boot cfg stored
  have empty (nextActorId : UInt64) : Awake { Server.new cfg with nextActorId }.engine := governs_new cfg
  refine ⟨?_, fun session handle held => ?_, fun session id owned => ?_⟩
  · cases stored with
    | error e => exact empty 1
    | ok latest =>
        cases latest with
        | some snapshot => exact awake_residents (empty 1) _
        | none => exact awake_residents (empty _) _
  · rw [cold.sessionHandles] at held
    cases held
  · rw [cold.owners] at owned
    cases owned

end Housed

/-! ## All sessions -/

def Attended (l : Lobby) : Prop :=
  ∀ session seat, l.seats session = some seat → ∃ task, l.service.tasks session = some task ∧
    Kept (l.service.server.engine.sessionToActor.lookup session) (pendingOf l.service.channel session)
      (session ∈ l.refused) seat task

theorem seats_self (l : Lobby) (session : SessionId) (seat : Option Seat) : (l.setSeat session seat).seats session = seat :=
  Function.update_self _ _ _

/-- What a step of one session leaves of the others. -/
structure Elsewhere (here : SessionId) (l l' : Lobby) : Prop where
  seats : ∀ session, session ≠ here → l'.seats session = l.seats session
  tasks : ∀ session, session ≠ here → l'.service.tasks session = l.service.tasks session
  owners : ∀ session, session ≠ here →
    l'.service.server.engine.sessionToActor.lookup session = l.service.server.engine.sessionToActor.lookup session
  pending : ∀ session, session ≠ here → pendingOf l'.service.channel session = pendingOf l.service.channel session
  refused : ∀ session, session ≠ here → (session ∈ l'.refused ↔ session ∈ l.refused)

theorem Attended.elsewhere (inv : Attended l) (here : SessionId) (others : Elsewhere here l l')
    (mine : ∀ seat, l'.seats here = some seat → ∃ task, l'.service.tasks here = some task ∧
      Kept (l'.service.server.engine.sessionToActor.lookup here) (pendingOf l'.service.channel here) (here ∈ l'.refused)
        seat task) : Attended l' := by
  intro session seat found
  by_cases same : session = here
  · subst same
    exact mine seat found
  · rw [others.seats session same] at found
    rw [others.tasks session same, others.owners session same, others.pending session same,
      propext (others.refused session same)]
    exact inv session seat found

theorem Elsewhere.heard {here : SessionId} {after : Service} (alone : l.service.HeardAlone here after) (seat : Option Seat) :
    Elsewhere here l ({ l with service := after }.setSeat here seat) := by
  refine ⟨fun session other => Function.update_of_ne other _ _, alone.tasks, fun session _ => ?_, fun session other => ?_,
    fun _ _ => .rfl⟩
  · change after.server.engine.sessionToActor.lookup session = _
    rw [alone.server]
  · obtain ⟨sent, channel, own⟩ := alone.channel
    change pendingOf after.channel session = _
    rw [channel, pendingOf_append, pendingOf_other (fun cmd member => own cmd (Option.mem_toList.mp member)) other,
      List.append_nil]

theorem Attended.quiet (inv : Attended l) {server : Server}
    (same : server.engine.sessionToActor = l.service.server.engine.sessionToActor) :
    Attended { l with service := { l.service with server } } := by
  intro session seat found
  obtain ⟨task, here, kept⟩ := inv session seat found
  refine ⟨task, here, ?_⟩
  change Kept (server.engine.sessionToActor.lookup session) _ _ _ _
  rw [same]
  exact kept

/-! ## One step -/

/-- A task of which a refusal is the only news. -/
theorem orderly_sendError {s : Service} (inv : Orderly s) (found : s.tasks session = some task) (reading : task.phase = .reading)
    (code : UInt32) (message : String) : Orderly (s.setTask session (task.sendError code message)) := by
  have turn := inv.turn session
  rw [found] at turn
  obtain ⟨calm, ends⟩ := turn.of_reading reading
  refine inv.resumed (inv.present found ?_) (.reading reading calm ends)
  rw [reading]
  exact TaskPhase.noConfusion

structure Settled (l : Lobby) : Prop where
  orderly : Orderly l.service
  housed : Housed l.service.server
  attended : Attended l

theorem Settled.receive (inv : Settled l) {cmd : ClientCommand} {rest : List ClientCommand} {after : Service}
    (taken : l.seats session = some seat) (queue : seat.sent = cmd :: rest)
    (moved : l.service.next (.receive session cmd) = some after) :
    Attended ({ l with service := after }.setSeat session (some { seat with sent := rest })) := by
  apply inv.attended.elsewhere session (Elsewhere.heard (heardAlone rfl moved) _)
  intro later same
  rw [seats_self] at same
  cases same
  obtain ⟨task, found, kept⟩ := inv.attended session seat taken
  simp only [Service.next, found, Option.bind_some] at moved
  split_ifs at moved with reading
  obtain ⟨channel, fits, rfl⟩ := Option.map_eq_some_iff.mp moved
  refine ⟨_, Function.update_self _ _ _, ?_⟩
  change Kept _ (pendingOf channel session) _ _ _
  rw [sendCommand_eq fits, pendingOf_append, pendingOf_own (handleClientCommand_session task session cmd)]
  exact kept.read queue reading session

theorem Settled.resume (inv : Settled l) {after : Service} (moved : l.service.next (.resume session) = some after) :
    Attended { l with service := after } := by
  have stays : Attended ({ l with service := after }.setSeat session (l.seats session)) := by
    apply inv.attended.elsewhere session (Elsewhere.heard (heardAlone rfl moved) _)
    intro seat taken
    rw [seats_self] at taken
    obtain ⟨task, found, kept⟩ := inv.attended session seat taken
    have turn := inv.orderly.turn session
    rw [found] at turn
    simp only [Service.next, found, Option.bind_some] at moved
    split at moved
    · rename_i reply waiting
      cases moved
      exact ⟨_, Function.update_self _ _ _, kept.resume waiting (settled_of_replied turn waiting)⟩
    · cases moved
  rw [setSeat, Function.update_eq_self] at stays
  exact stays

theorem Settled.process (inv : Settled l) {ord : Order} {cmd : EngineCommand} {rest : List EngineCommand}
    (queue : l.service.channel = cmd :: rest) : Attended { l with service := l.service.handled ord cmd rest } := by
  have isolated := inv.orderly.isolated ord cmd rest
  obtain ⟨server, channel⟩ := server_handled l.service ord cmd rest
  have others : Elsewhere cmd.session l { l with service := l.service.handled ord cmd rest } := by
    refine ⟨fun _ _ => rfl, isolated.tasks, isolated.owners, fun session other => ?_, fun _ _ => .rfl⟩
    change pendingOf (l.service.handled ord cmd rest).channel session = _
    rw [channel]
    exact pendingOf_rest queue other
  apply inv.attended.elsewhere cmd.session others
  intro seat taken
  obtain ⟨task, found, kept⟩ := inv.attended cmd.session seat taken
  have turn := inv.orderly.turn cmd.session
  rw [found, pendingOf_head queue] at turn
  rw [pendingOf_head queue] at kept
  refine ⟨_, tasks_handled found, ?_⟩
  change Kept ((l.service.handled ord cmd rest).server.engine.sessionToActor.lookup cmd.session)
    (pendingOf (l.service.handled ord cmd rest).channel cmd.session) _ _ _
  rw [server, channel]
  exact kept.process turn ord

theorem Settled.background (inv : Settled l) {step : ServerStep} {after : Service}
    (moved : l.service.next (.server step) = some after) :
    Housed after.server ∧ Attended { l with service := after } := by
  cases step with
  | command ord cmd => cases moved
  | agent handle decision =>
      cases moved
      refine ⟨inv.housed.send handle ?_, ?_⟩
      · cases decision <;> exact ActorMessage.noConfusion
      · exact inv.attended.quiet (effected_send l.service.server.engine handle decision.message).undisturbed.owners
  | directive order =>
      cases moved
      have effected := effected_applyDirective l.service.server.engine order
      refine ⟨inv.housed.quiet ?_ effected.undisturbed.owners ?_, inv.attended.quiet effected.undisturbed.owners⟩
      · refine inv.housed.awake.timeless (.applyDirective order) (fun msg sent => ?_) rfl
        cases order with
        | ForceMove id dest =>
            cases sent
            exact ActorMessage.noConfusion
        | _ => cases sent
      · rw [effected.actors]
        exact fun id live => live
  | pump session =>
      cases moved
      have owners := (undisturbed_drainSession l.service.server.engine session).owners
      refine ⟨inv.housed.quiet ?_ owners ?_, inv.attended.quiet owners⟩
      · exact inv.housed.awake.timeless (.drainSession session) (fun msg sent => by cases sent) rfl
      · rw [drainSession_runtime]
        exact fun id live => live
  | tick ord clock =>
      cases moved
      obtain ⟨awake, live⟩ := inv.housed.awake.tick ord clock
      have owners := (undisturbed_tick l.service.server.engine ord clock).owners
      exact ⟨inv.housed.quiet awake owners live, inv.attended.quiet owners⟩

theorem housed_heard {before after : Service} (housed : Housed before.server) (alone : before.HeardAlone session after) :
    Housed after.server := by
  rw [alone.server]
  exact housed

theorem Settled.next (inv : Settled l) {step : LobbyStep} (fresh : l.FreshIds step) (moved : l.next step = some l') :
    Settled l' := by
  cases step with
  | accept =>
      simp only [Lobby.next] at moved
      obtain ⟨after, accepted, rfl⟩ := Option.map_eq_some_iff.mp moved
      refine ⟨inv.orderly.next (show l.service.FreshIds .accept from fresh) accepted, ?_, ?_⟩
      · cases accepted
        exact inv.housed
      cases accepted
      refine inv.attended.elsewhere ⟨l.service.nextSessionId⟩ ?_ fun seat same => ?_
      · refine ⟨fun session other => Function.update_of_ne other _ _, fun session other => Function.update_of_ne other _ _,
          fun _ _ => rfl, fun _ _ => rfl, fun _ _ => .rfl⟩
      · rw [seats_self] at same
        cases same
        refine ⟨.new, Function.update_self _ _ _, ?_⟩
        refine ⟨Nat.zero_le _, fun id member => absurd member List.not_mem_nil, Nat.zero_le _, fun _ => rfl,
          TaskPhase.noConfusion, fun _ _ => rfl, fun id phase => TaskPhase.noConfusion phase, fun has => ?_⟩
        exact absurd has Bool.false_ne_true
  | act session action =>
      obtain ⟨seat, taken, rfl⟩ := Option.map_eq_some_iff.mp moved
      refine ⟨inv.orderly, inv.housed, inv.attended.elsewhere session ?_ fun later same => ?_⟩
      · exact ⟨fun session other => Function.update_of_ne other _ _, fun _ _ => rfl, fun _ _ => rfl, fun _ _ => rfl,
          fun _ _ => .rfl⟩
      · rw [seats_self] at same
        cases same
        obtain ⟨task, found, kept⟩ := inv.attended session seat taken
        exact ⟨task, found, kept.act action⟩
  | hear session =>
      simp only [Lobby.next, Option.bind_eq_some_iff] at moved
      obtain ⟨seat, taken, task, found, moved⟩ := moved
      obtain ⟨msg, said, rfl⟩ := Option.map_eq_some_iff.mp moved
      refine ⟨inv.orderly, inv.housed, inv.attended.elsewhere session ?_ fun later same => ?_⟩
      · exact ⟨fun session other => Function.update_of_ne other _ _, fun _ _ => rfl, fun _ _ => rfl, fun _ _ => rfl,
          fun _ _ => .rfl⟩
      · rw [seats_self] at same
        cases same
        obtain ⟨task', found', kept⟩ := inv.attended session seat taken
        cases found.symm.trans found'
        exact ⟨task, found, kept.hear said⟩
  | read session =>
      simp only [Lobby.next, Option.bind_eq_some_iff] at moved
      obtain ⟨seat, taken, moved⟩ := moved
      cases queue : seat.sent with
      | nil => simp [queue] at moved
      | cons cmd rest =>
          simp only [queue] at moved
          obtain ⟨after, received, rfl⟩ := Option.map_eq_some_iff.mp moved
          exact ⟨inv.orderly.next (show l.service.FreshIds (.receive session cmd) from trivial) received,
            housed_heard inv.housed (heardAlone rfl received),
            inv.receive taken queue received⟩
  | refuse session =>
      simp only [Lobby.next, Option.bind_eq_some_iff] at moved
      obtain ⟨seat, taken, task, found, moved⟩ := moved
      cases queue : seat.sent with
      | nil => simp [queue] at moved
      | cons cmd rest =>
          simp only [queue] at moved
          split_ifs at moved with reading
          cases moved
          refine ⟨orderly_sendError inv.orderly found reading _ _, inv.housed,
            inv.attended.elsewhere session ?_ fun later same => ?_⟩
          · refine ⟨fun session other => Function.update_of_ne other _ _, fun session other => Function.update_of_ne other _ _,
              fun _ _ => rfl, fun _ _ => rfl, fun other different => ?_⟩
            exact List.mem_cons.trans (or_iff_right different)
          · rw [seats_self] at same
            cases same
            obtain ⟨task', found', kept⟩ := inv.attended session seat taken
            cases found.symm.trans found'
            exact ⟨_, Function.update_self _ _ _, kept.refuse queue List.mem_cons_self⟩
  | leave session =>
      obtain ⟨after, closed, rfl⟩ := Option.map_eq_some_iff.mp moved
      refine ⟨inv.orderly.next (show l.service.FreshIds (.close session) from trivial) closed,
        housed_heard inv.housed (heardAlone rfl closed), inv.attended.elsewhere session (Elsewhere.heard (heardAlone rfl closed) none) ?_⟩
      intro seat same
      rw [seats_self] at same
      cases same
  | service step =>
      cases step with
      | resume session =>
          obtain ⟨after, resumed, rfl⟩ := Option.map_eq_some_iff.mp moved
          exact ⟨inv.orderly.next (show l.service.FreshIds (.resume session) from trivial) resumed,
            housed_heard inv.housed (heardAlone rfl resumed),
            inv.resume resumed⟩
      | process ord =>
          obtain ⟨after, processed, rfl⟩ := Option.map_eq_some_iff.mp moved
          have orderly := inv.orderly.next (show l.service.FreshIds (.process ord) from fresh) processed
          cases queue : l.service.channel with
          | nil => simp [Service.next, queue] at processed
          | cons cmd rest =>
              simp only [Service.next, queue, Option.some.injEq] at processed
              subst processed
              refine ⟨orderly, ?_, inv.process queue⟩
              change Housed (l.service.handled ord cmd rest).server
              rw [(server_handled l.service ord cmd rest).1]
              exact inv.housed.process inv.orderly.booked ord cmd
      | server step =>
          obtain ⟨after, ran, rfl⟩ := Option.map_eq_some_iff.mp moved
          obtain ⟨housed, attended⟩ := inv.background ran
          exact ⟨inv.orderly.next (show l.service.FreshIds (.server step) from trivial) ran, housed, attended⟩
      | accept | receive | close => cases moved

theorem settled_reachable (reachable : Lobby.Reachable cfg stored l) : Settled l := by
  refine reachable.invariant ?_ ?_
  · intro l first
    subst first
    exact ⟨orderly_start cfg stored, housed_boot cfg stored, fun session seat taken => by cases taken⟩
  · exact fun l step after inv fresh moved => inv.next fresh moved

theorem pages_and_server_agree (cfg : WorldConfig) (stored : Except SnapshotError (Option WorldSnapshot)) (l : Lobby)
    (reachable : Lobby.Reachable cfg stored l) (session : SessionId) (seat : Seat) (taken : l.seats session = some seat) :
    ∃ task, l.service.tasks session = some task ∧ l.Agrees session seat task := by
  have inv := settled_reachable reachable
  obtain ⟨task, found, kept⟩ := inv.attended session seat taken
  refine ⟨task, found, fun id member => ?_, kept.once, kept.kept⟩
  have owned := kept.named id member
  refine ⟨?_, inv.housed.lives session id owned, owned, ?_⟩
  · refine kept.held (Nat.lt_of_lt_of_le ?_ (Nat.le_add_right _ _))
    exact List.length_pos_of_mem member
  · have books := inv.orderly.booked
    have held := (books.sessionHandles session).mpr ((books.owners session).mp (HashMap.mem_of_lookup owned))
    obtain ⟨handle, given⟩ := HashMap.lookup_of_mem held
    exact ⟨handle, given, Option.some.inj ((inv.housed.routes session handle given).symm.trans owned)⟩

-- the button is pressed again before the page has heard that it has been
def impatient : List LobbyStep :=
  let join : LobbyStep := .act ⟨1⟩ (.joinWorld ⟨"  Ada ", "curious", "A visitor", .Mock, .Knight, .Neutral⟩ (1 / 2) (1 / 4))
  [.accept, join, join, .read ⟨1⟩, .service (.process .stored), .service (.resume ⟨1⟩), .hear ⟨1⟩, .read ⟨1⟩,
    .act ⟨1⟩ (.onMapClick 3 4 false), .read ⟨1⟩]

def deployed : Lobby :=
  (Transition.run Lobby.next (Lobby.start .default (.ok none)) impatient).getD (Lobby.start .default (.ok none))

theorem deployed_reachable : Lobby.Reachable .default (.ok none) deployed := by
  have fresh : Transition.Respects Lobby.FreshIds Lobby.next (Lobby.start .default (.ok none)) impatient := by
    decide +kernel
  have runs : (Transition.run Lobby.next (Lobby.start .default (.ok none)) impatient).isSome := by decide +kernel
  exact Transition.Reachable.getD_run (.start rfl) fresh runs

theorem deployed_page_agrees : ∃ seat task, deployed.seats ⟨1⟩ = some seat ∧ seat.page = ⟨some ⟨21⟩, true, false⟩ ∧
    deployed.service.tasks ⟨1⟩ = some task ∧
    task.out = [.ActorCreated ⟨21⟩, .Error 409 "Session already has an actor"] ∧ deployed.Agrees ⟨1⟩ seat task := by
  have shows : (deployed.seats ⟨1⟩).map Seat.page = some ⟨some ⟨21⟩, true, false⟩ := by decide +kernel
  have told : (deployed.service.tasks ⟨1⟩).map ConnectionTask.out =
      some [.ActorCreated ⟨21⟩, .Error 409 "Session already has an actor"] := by
    decide +kernel
  obtain ⟨seat, taken, page⟩ := Option.map_eq_some_iff.mp shows
  obtain ⟨task, found, agrees⟩ := pages_and_server_agree .default (.ok none) deployed deployed_reachable ⟨1⟩ seat taken
  rw [found] at told
  exact ⟨seat, task, taken, page, found, Option.some.inj told, agrees⟩

end LiveWorld.Proof.Pages

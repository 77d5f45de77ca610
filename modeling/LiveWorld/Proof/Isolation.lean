import LiveWorld.Proof.Sessions

/-!
# Clients do not touch each other

Every command is routed by its session, and the maps it is routed through belong to that session alone.
The actor that a message names is dropped on the way.
-/

namespace LiveWorld.Proof.Sessions
open HashTable Spec Proof.Runtime Proof.Engine
variable {cfg : WorldConfig} {stored : Except SnapshotError (Option WorldSnapshot)} {s t after : Service}
  {session : SessionId} {cmd : EngineCommand} {rest : List EngineCommand} {ord : Order}

/-! ## What a connection does -/

theorem heard_send {task : ConnectionTask} {sent : Option EngineCommand} {channel : List EngineCommand}
    (own : ∀ cmd ∈ sent.toList, cmd.session = session) (fits : sendCommand s.channel sent = some channel) :
    s.HeardAlone session { s.setTask session task with channel } := by
  refine ⟨rfl, fun other different => Function.update_of_ne different _ _, sent, sendCommand_eq fits, ?_⟩
  intro cmd member
  exact own cmd (Option.mem_toList.mpr member)

theorem heardAlone {step : ServiceStep} (speaks : step.connection = some session) (moved : s.next step = some after) :
    s.HeardAlone session after := by
  cases step with
  | receive speaker cmd =>
      cases speaks
      simp only [Service.next, Option.bind_eq_some_iff] at moved
      obtain ⟨task, -, moved⟩ := moved
      split_ifs at moved
      obtain ⟨channel, fits, rfl⟩ := Option.map_eq_some_iff.mp moved
      exact heard_send (handleClientCommand_session task session cmd) fits
  | resume speaker =>
      cases speaks
      simp only [Service.next, Option.bind_eq_some_iff] at moved
      obtain ⟨task, -, moved⟩ := moved
      cases waiting : task.phase with
      | awaitingReply oneshot =>
          cases oneshot with
          | none => simp [waiting] at moved
          | some reply =>
              simp only [waiting, Option.some.injEq] at moved
              subst moved
              have silent : ∀ cmd ∈ (none : Option EngineCommand).toList, cmd.session = session :=
                fun _ member => absurd member List.not_mem_nil
              exact heard_send silent rfl
      | _ => simp [waiting] at moved
  | close speaker =>
      cases speaks
      simp only [Service.next, Option.bind_eq_some_iff] at moved
      obtain ⟨task, -, moved⟩ := moved
      split_ifs at moved
      obtain ⟨channel, fits, rfl⟩ := Option.map_eq_some_iff.mp moved
      refine heard_send (fun cmd member => ?_) fits
      rw [List.mem_singleton.mp member]
      rfl
  | accept | process _ | server _ => cases speaks

/-! ## What the processor does -/

theorem deliver_frame (s : Service) (session : SessionId) (reply : Option (Except String ActorId)) :
    ∃ tasks, s.deliver session reply = { s with tasks } ∧ ∀ other, other ≠ session → tasks other = s.tasks other := by
  unfold Service.deliver
  cases reply with
  | none => exact ⟨s.tasks, rfl, fun _ _ => rfl⟩
  | some reply =>
      cases s.tasks session with
      | none => exact ⟨s.tasks, rfl, fun _ _ => rfl⟩
      | some task => exact ⟨_, rfl, fun other different => Function.update_of_ne different _ _⟩

/-- `Isolated`, as far as the server is concerned. -/
structure Apart (session : SessionId) (mine mine' : ActorId → Prop) (before after : Server) : Prop where
  spawns : ∀ id ∈ after.engine.runtime.actors, id ∉ before.engine.runtime.actors → mine' id
  despawns : ∀ id ∈ before.engine.runtime.actors, id ∉ after.engine.runtime.actors → mine id
  actors : ∀ id, ¬mine' id → after.engine.runtime.actors.lookup id = before.engine.runtime.actors.lookup id
  inboxes : ∀ id actor, before.engine.runtime.actors.lookup id = some actor → ¬mine id →
    after.engine.runtime.inboxes.pending actor.inbox = before.engine.runtime.inboxes.pending actor.inbox
  loops : ∀ dl : DecisionLoop, ¬mine' dl.spec.id → (dl ∈ after.running ↔ dl ∈ before.running)
  sessionHandles : ∀ other, other ≠ session → after.sessionHandles.lookup other = before.sessionHandles.lookup other
  decisionHandles : ∀ other, other ≠ session → after.decisionHandles.lookup other = before.decisionHandles.lookup other
  owners : ∀ other, other ≠ session →
    after.engine.sessionToActor.lookup other = before.engine.sessionToActor.lookup other
  queues : ∀ other, other ≠ session →
    after.engine.sessionQueues.lookup other = before.engine.sessionQueues.lookup other
  anchors : ∀ other, other ≠ session →
    after.engine.interest.sessionAnchors.lookup other = before.engine.interest.sessionAnchors.lookup other

section Server
variable {server : Server} {spawned : List (SessionId × ActorId)} {issued : List ActorId} {mine mine' : ActorId → Prop}

theorem Apart.refl (server : Server) : Apart session mine mine' server server :=
  ⟨fun _ live gone => absurd live gone, fun _ live gone => absurd live gone, fun _ _ => rfl, fun _ _ _ _ => rfl,
    fun _ _ => .rfl, fun _ _ => rfl, fun _ _ => rfl, fun _ _ => rfl, fun _ _ => rfl, fun _ _ => rfl⟩

theorem Booked.apart_send (inv : Booked server spawned issued) {handle : ActorHandle} (msg : ActorMessage)
    (held : server.sessionHandles.lookup session = some handle) :
    Apart session (fun id => (session, id) ∈ spawned) mine' server
      { server with engine := (server.engine.send handle msg).2 } := by
  refine { Apart.refl server with inboxes := fun id actor found notMine => ?_ }
  refine (pending_send handle server.engine.runtime.inboxes msg actor.inbox).trans (if_neg fun both => notMine ?_)
  exact (inv.posted session handle held).2 id actor found both.1

theorem lookup_insert_other {V : Type} (m : HashMap SessionId V) (v : V) (other : SessionId) (different : other ≠ session) :
    (m.insert session v).lookup other = m.lookup other := AList.lookup_insert_ne different

theorem lookup_erase_other {V : Type} (m : HashMap SessionId V) (other : SessionId) (different : other ≠ session) :
    (m.erase session).lookup other = m.lookup other := AList.lookup_erase_ne different

theorem Booked.apart_opened (inv : Booked server spawned issued) (ord : Order) {spec : ActorSpec}
    (cacheKey : Option String) (llmCaches : HashMap String LlmModel) :
    Apart session mine (fun id => (session, id) ∈ (session, spec.id) :: spawned) server
      (opened server ord session spec cacheKey llmCaches) := by
  have new : ∀ id, (session, id) ∉ (session, spec.id) :: spawned → id ≠ spec.id := by
    rintro id other rfl
    exact other List.mem_cons_self
  have lookup : ∀ id, id ≠ spec.id →
      (opened server ord session spec cacheKey llmCaches).engine.runtime.actors.lookup id =
        server.engine.runtime.actors.lookup id := by
    intro id other
    exact (spawnActor_lookup server.engine.runtime spec id).trans (if_neg other)
  refine
    { spawns := fun id live gone => ?_
      despawns := fun id live gone => ?_
      actors := fun id other => lookup id (new id other)
      inboxes := fun id actor found _ => ?_
      loops := fun dl other => ?_
      sessionHandles := lookup_insert_other _ _
      decisionHandles := lookup_insert_other _ _
      owners := lookup_insert_other _ _
      queues := lookup_insert_other _ _
      anchors := lookup_insert_other _ _ }
  · rcases (AList.mem_insert _).mp live with same | old
    · rw [same]
      exact List.mem_cons_self
    · exact absurd old gone
  · exact absurd ((AList.mem_insert _).mpr (.inr live)) gone
  · exact Function.update_of_ne (Nat.ne_of_lt (inv.allocated id actor found)) _ _
  · change dl ∈ server.running ++ [_] ↔ _
    rw [List.mem_append, List.mem_singleton]
    refine ⟨fun either => either.elim (fun old => old) fun same => ?_, .inl⟩
    rw [same] at other
    exact absurd rfl (new _ other)

theorem Booked.apart_endSession (inv : Booked server spawned issued) (session : SessionId) :
    Apart session (fun id => (session, id) ∈ spawned) (fun id => (session, id) ∈ spawned) server
      (server.endSession session) := by
  have lookup (id : ActorId) : (server.endSession session).engine.runtime.actors.lookup id =
      if true = true ∧ server.engine.sessionToActor.lookup session = some id then none
      else server.engine.runtime.actors.lookup id := removeSession_lookup server.engine session true id
  have kept (id : ActorId) (other : (session, id) ∉ spawned) :
      (server.endSession session).engine.runtime.actors.lookup id = server.engine.runtime.actors.lookup id := by
    rw [lookup, if_neg]
    exact fun both => other (inv.recorded session id both.2)
  refine
    { spawns := fun id live gone => ?_
      despawns := fun id live gone => ?_
      actors := kept
      inboxes := fun id actor _ _ => ?_
      loops := fun dl other => ?_
      sessionHandles := lookup_erase_other _
      decisionHandles := lookup_erase_other _
      owners := fun other different => ?_
      queues := fun other different => ?_
      anchors := fun other different => ?_ }
  · obtain ⟨actor, found⟩ := HashMap.lookup_of_mem live
    rw [lookup] at found
    split_ifs at found
    exact absurd (HashMap.mem_of_lookup found) gone
  · by_contra other
    rw [← AList.lookup_isSome, ← kept id other, AList.lookup_isSome] at live
    exact gone live
  · exact congrFun (congrArg Inboxes.pending (removeSession_inboxes server.engine session true)) actor.inbox
  · unfold Server.endSession
    cases held : server.decisionHandles.lookup session with
    | none => exact .rfl
    | some mine =>
        refine List.mem_erase_of_ne ?_
        rintro rfl
        exact other (inv.joined session dl held)
  · exact (removeSession_owners server.engine session true other).trans (if_neg different)
  · change (server.engine.removeSession session true).sessionQueues.lookup other = _
    rw [removeSession_queues]
    exact lookup_erase_other _ other different
  · change (server.engine.removeSession session true).interest.sessionAnchors.lookup other = _
    rw [removeSession_interest]
    exact lookup_erase_other _ other different

theorem Booked.apart (inv : Booked server spawned issued) (ord : Order) (cmd : EngineCommand) :
    Apart cmd.session (fun id => (cmd.session, id) ∈ spawned)
      (fun id => (cmd.session, id) ∈
        ((Service.created (server.process ord cmd).1).map fun id => (cmd.session, id)).toList ++ spawned)
      server (server.process ord cmd).2 := by
  have result := processed server ord cmd
  generalize server.process ord cmd = outcome at result
  generalize kind cmd = sort at result
  cases result with
  | refused e => exact .refl server
  | opened spec cacheKey llmCaches numbered => exact inv.apart_opened ord cacheKey llmCaches
  | dropped => exact .refl server
  | sent handle msg held => exact inv.apart_send msg held
  | destroyed => exact inv.apart_endSession cmd.session
  | disconnected => exact inv.apart_endSession cmd.session

end Server

theorem Orderly.isolated (inv : Orderly s) (ord : Order) (cmd : EngineCommand) (rest : List EngineCommand) :
    s.Isolated cmd.session (s.handled ord cmd rest) := by
  have apart := inv.booked.apart ord cmd
  unfold Service.handled
  generalize s.server.process ord cmd = outcome at apart
  obtain ⟨reply, server⟩ := outcome
  obtain ⟨tasks, delivered, others⟩ := deliver_frame
    { s with
      server
      channel := rest
      spawned := ((Service.created reply).map fun id => (cmd.session, id)).toList ++ s.spawned
      disconnected := (Service.leaver cmd).toList ++ s.disconnected
      issued := (Service.created reply).toList ++ s.issued } cmd.session reply
  simp only
  rw [delivered]
  exact ⟨apart.spawns, apart.despawns, apart.actors, apart.inboxes, apart.loops, apart.sessionHandles,
    apart.decisionHandles, apart.owners, apart.queues, apart.anchors, others⟩

theorem Orderly.keepsClientsApart (inv : Orderly s) : s.KeepsClientsApart := by
  refine ⟨inv.booked.sole, fun step session after => heardAlone, ?_⟩
  intro ord cmd rest after queue _ moved
  simp only [Service.next, queue, Option.some.injEq] at moved
  subst moved
  exact inv.isolated ord cmd rest

/-! ## Named actors -/

/-- Two commands that the processor cannot tell apart. -/
inductive SameCommand : EngineCommand → EngineCommand → Prop
  | same (cmd : EngineCommand) : SameCommand cmd cmd
  | destroy (session : SessionId) (id other : ActorId) :
      SameCommand (.DestroyActor session id) (.DestroyActor session other)

structure SameService (s t : Service) : Prop where
  server : t.server = s.server
  nextSessionId : t.nextSessionId = s.nextSessionId
  tasks : t.tasks = s.tasks
  channel : List.Forall₂ SameCommand s.channel t.channel

theorem SameService.refl (s : Service) : SameService s s :=
  ⟨rfl, rfl, rfl, List.forall₂_same.mpr fun cmd _ => .same cmd⟩

theorem SameCommand.process {other : EngineCommand} (same : SameCommand cmd other) (server : Server) (ord : Order) :
    server.process ord other = server.process ord cmd ∧ other.session = cmd.session := by
  cases same with
  | same => exact ⟨rfl, rfl⟩
  | destroy => exact ⟨rfl, rfl⟩

theorem naming_handled (task : ConnectionTask) (session : SessionId) (cmd : ClientCommand) (id : ActorId) :
    (task.handleClientCommand session (Service.naming id cmd)).1 = (task.handleClientCommand session cmd).1 ∧
      Option.Rel SameCommand (task.handleClientCommand session cmd).2
        (task.handleClientCommand session (Service.naming id cmd)).2 := by
  have still (sent : Option EngineCommand) : Option.Rel SameCommand sent sent := by
    cases sent with
    | none => exact .none
    | some cmd => exact .some (.same cmd)
  cases cmd with
  | DestroyActor named => exact ⟨rfl, .some (.destroy session named id)⟩
  | _ => exact ⟨rfl, still _⟩

theorem SameService.send (same : SameService s t) {sent sent' : Option EngineCommand}
    (alike : Option.Rel SameCommand sent sent') :
    Option.Rel (List.Forall₂ SameCommand) (sendCommand s.channel sent) (sendCommand t.channel sent') := by
  cases alike with
  | none => exact .some same.channel
  | some alike =>
      simp only [sendCommand, same.channel.length_eq]
      split_ifs
      · exact .some (List.rel_append same.channel (.cons alike .nil))
      · exact .none

theorem SameService.setTask (same : SameService s t) (session : SessionId) (task : ConnectionTask) :
    SameService (s.setTask session task) (t.setTask session task) := by
  refine ⟨same.server, same.nextSessionId, ?_, same.channel⟩
  simp only [Service.setTask, same.tasks]

theorem SameService.deliver (same : SameService s t) (session : SessionId) (reply : Option (Except String ActorId)) :
    SameService (s.deliver session reply) (t.deliver session reply) := by
  unfold Service.deliver
  rw [same.tasks]
  cases reply with
  | none => exact same
  | some reply =>
      cases s.tasks session with
      | none => exact same
      | some task => exact same.setTask session (task.answer reply)

theorem SameService.receive (same : SameService s t) (session : SessionId) {cmd cmd' : ClientCommand}
    (alike : ∀ task : ConnectionTask,
      (task.handleClientCommand session cmd').1 = (task.handleClientCommand session cmd).1 ∧
        Option.Rel SameCommand (task.handleClientCommand session cmd).2 (task.handleClientCommand session cmd').2) :
    Option.Rel SameService (s.next (.receive session cmd)) (t.next (.receive session cmd')) := by
  simp only [Service.next, same.tasks]
  cases s.tasks session with
  | none => exact .none
  | some task =>
      simp only [Option.bind_some]
      split_ifs
      · obtain ⟨updated, sent⟩ := alike task
        have fits := same.send sent
        rw [updated]
        generalize sendCommand s.channel _ = one at fits
        generalize sendCommand t.channel _ = two at fits
        cases fits with
        | none => exact .none
        | some channels => exact .some { same.setTask session _ with channel := channels }
      · exact .none

theorem SameService.next (same : SameService s t) {step step' : ServiceStep} (renamed : Service.Renamed step step') :
    Option.Rel SameService (s.next step) (t.next step') := by
  cases renamed with
  | receive session cmd id => exact same.receive session fun task => naming_handled task session cmd id
  | same =>
      cases step with
      | accept =>
          refine .some ?_
          have connected := same.setTask ⟨s.nextSessionId⟩ .new
          rw [same.nextSessionId]
          exact ⟨connected.server, rfl, connected.tasks, connected.channel⟩
      | receive session cmd =>
          refine same.receive session fun task => ⟨rfl, ?_⟩
          cases (task.handleClientCommand session cmd).2 with
          | none => exact .none
          | some sent => exact .some (.same sent)
      | resume session =>
          simp only [Service.next, same.tasks]
          cases s.tasks session with
          | none => exact .none
          | some task =>
              simp only [Option.bind_some]
              cases task.phase with
              | awaitingReply oneshot =>
                  cases oneshot with
                  | none => exact .none
                  | some reply => exact .some (same.setTask session _)
              | _ => exact .none
      | close session =>
          simp only [Service.next, same.tasks]
          cases s.tasks session with
          | none => exact .none
          | some task =>
              simp only [Option.bind_some]
              split_ifs
              · have fits := same.send (.some (.same (task.disconnect session).2))
                generalize sendCommand s.channel _ = one at fits
                generalize sendCommand t.channel _ = two at fits
                cases fits with
                | none => exact .none
                | some channels => exact .some { same.setTask session _ with channel := channels }
              · exact .none
      | process ord =>
          simp only [Service.next]
          have channels := same.channel
          generalize s.channel = one at channels
          generalize t.channel = two at channels
          cases channels with
          | nil => exact .none
          | @cons cmd cmd' rest rest' alike later =>
              obtain ⟨outcome, owner⟩ := alike.process s.server ord
              refine .some ?_
              unfold Service.handled
              rw [same.server, outcome, owner]
              apply SameService.deliver
              exact ⟨rfl, same.nextSessionId, same.tasks, later⟩
      | server step =>
          cases step with
          | command ord cmd => exact .none
          | agent | directive | pump | tick =>
              refine .some ⟨?_, same.nextSessionId, same.tasks, same.channel⟩
              rw [same.server]

theorem ignoresNames (s : Service) : s.IgnoresNames := by
  intro steps renamed alike n
  have related : Option.Rel SameService (Transition.run Service.next s (steps.take n))
      (Transition.run Service.next s (renamed.take n)) :=
    Transition.run_related (fun _ _ _ _ same renamed => same.next renamed) (List.forall₂_take n alike) (.refl s)
  generalize Transition.run Service.next s (steps.take n) = one at related
  generalize Transition.run Service.next s (renamed.take n) = two at related
  cases related with
  | none => rfl
  | some same => exact congrArg some same.server

/-! ## Both -/

theorem clients_are_isolated (cfg : WorldConfig) (stored : Except SnapshotError (Option WorldSnapshot)) (s : Service)
    (reachable : Service.Reachable cfg stored s) : s.KeepsClientsApart ∧ s.IgnoresNames :=
  ⟨(orderly_reachable reachable).keepsClientsApart, ignoresNames s⟩

-- two visitors; the second one names the actor of the first, which is 21
def rivals : List ServiceStep :=
  let create (session : UInt64) : ServiceStep :=
    .receive ⟨session⟩ (.CreateActor "Ada" "curious" "A visitor" .Mock ⟨5, 5⟩ none none)
  [.accept, .accept, create 1, create 2, .process .stored, .process .stored, .resume ⟨1⟩, .resume ⟨2⟩,
    .receive ⟨2⟩ (.MoveActor ⟨21⟩ ⟨50, 5⟩), .receive ⟨2⟩ (.DestroyActor ⟨21⟩)]

theorem clients_are_isolated_rivals :
    let s := Service.after .default (.ok none) rivals
    (s.KeepsClientsApart ∧ s.IgnoresNames) ∧ s.spawned = [(⟨2⟩, ⟨22⟩), (⟨1⟩, ⟨21⟩)] ∧
      s.channel = [.MoveActor ⟨2⟩ ⟨50, 5⟩, .DestroyActor ⟨2⟩ ⟨21⟩] := by
  refine ⟨clients_are_isolated .default (.ok none) _ (reachable_after ?_ ?_), ?_, ?_⟩
  · decide +kernel
  · decide +kernel
  · decide +kernel
  · decide +kernel

end LiveWorld.Proof.Sessions

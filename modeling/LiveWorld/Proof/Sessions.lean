import LiveWorld.Proof.Engine.Calls
import LiveWorld.Spec.Sessions

/-!
# One actor for each session

The processor itself would overwrite the handles of a session on a second creation. What a task may
still send, together with what it has sent already, keeps that from happening: `Turn`.
-/

namespace LiveWorld.Proof.Sessions
open HashTable Spec Proof.Runtime Proof.Engine
variable {cfg : WorldConfig} {stored : Except SnapshotError (Option WorldSnapshot)} {s : Service} {server : Server}
  {session : SessionId} {registered : Prop} {task : ConnectionTask} {pending : List EngineCommand}

/-! ## Commands -/

inductive CommandKind
  | create
  | message
  | destroy
  | disconnect

def kind : EngineCommand → CommandKind
  | .CreateActor .. => .create
  | .MoveActor .. => .message
  | .ChatActor .. => .message
  | .DestroyActor .. => .destroy
  | .SessionDisconnect .. => .disconnect

def Calm (cmds : List EngineCommand) : Prop := ∀ cmd ∈ cmds, kind cmd = .message ∨ kind cmd = .destroy

def Ends (cmds : List EngineCommand) : Prop := ∃ cmd ∈ cmds, kind cmd = .destroy

theorem calm_nil : Calm [] := fun _ member => absurd member List.not_mem_nil

theorem not_ends_nil : ¬Ends [] := fun ends => ends.elim fun _ both => absurd both.1 List.not_mem_nil

theorem calm_cons {cmd : EngineCommand} : Calm (cmd :: pending) ↔
    (kind cmd = .message ∨ kind cmd = .destroy) ∧ Calm pending := List.forall_mem_cons

theorem calm_append {later : List EngineCommand} : Calm (pending ++ later) ↔ Calm pending ∧ Calm later :=
  List.forall_mem_append

theorem Ends.append (ends : Ends pending) (later : List EngineCommand) : Ends (pending ++ later) := by
  obtain ⟨cmd, member, destroys⟩ := ends
  exact ⟨cmd, List.mem_append_left _ member, destroys⟩

theorem Ends.tail {cmd : EngineCommand} (ends : Ends (cmd :: pending)) (other : kind cmd = .message) :
    Ends pending := by
  obtain ⟨last, member, destroys⟩ := ends
  rcases List.mem_cons.mp member with rfl | member
  · rw [other] at destroys
    cases destroys
  · exact ⟨last, member, destroys⟩

/-! ## Whose turn it is -/

/-- What a task's phase says about the commands of its session that are still in the channel. -/
inductive Turn (registered : Prop) : Option ConnectionTask → List EngineCommand → Prop
  | unknown : ¬registered → Turn registered none []
  | reading {task : ConnectionTask} {pending : List EngineCommand} : task.phase = .reading → Calm pending →
      (task.hasActor = false → registered → Ends pending) → Turn registered (some task) pending
  | creating {task : ConnectionTask} {earlier : List EngineCommand} {create : EngineCommand} :
      task.phase = .awaitingReply none → Calm earlier → kind create = .create → (registered → Ends earlier) →
      Turn registered (some task) (earlier ++ [create])
  | replied {task : ConnectionTask} {reply : Except String ActorId} : task.phase = .awaitingReply (some reply) →
      (∀ e, reply = .error e → ¬registered) → Turn registered (some task) []
  | leaving {task : ConnectionTask} {earlier : List EngineCommand} {last : EngineCommand} :
      task.phase = .closed → Calm earlier → kind last = .disconnect → Turn registered (some task) (earlier ++ [last])
  | left {task : ConnectionTask} : task.phase = .closed → ¬registered → Turn registered (some task) []

theorem Turn.of_reading (turn : Turn registered (some task) pending) (reading : task.phase = .reading) :
    Calm pending ∧ (task.hasActor = false → registered → Ends pending) := by
  cases turn with
  | reading _ calm ends => exact ⟨calm, ends⟩
  | creating phase | replied phase | leaving phase | left phase =>
      rw [reading] at phase
      cases phase

theorem Turn.receive (turn : Turn registered (some task) pending) (reading : task.phase = .reading)
    (session : SessionId) (cmd : ClientCommand) :
    Turn registered (some (task.handleClientCommand session cmd).1)
      (pending ++ (task.handleClientCommand session cmd).2.toList) := by
  obtain ⟨calm, ends⟩ := turn.of_reading reading
  have message {sent : EngineCommand} (other : kind sent = .message) :
      Turn registered (some task) (pending ++ [sent]) := by
    refine .reading reading (calm_append.mpr ⟨calm, calm_cons.mpr ⟨.inl other, calm_nil⟩⟩) ?_
    intro free taken
    exact (ends free taken).append _
  cases cmd with
  | CreateActor name personality backstory model position role faction =>
      simp only [ConnectionTask.handleClientCommand]
      cases owns : task.hasActor with
      | true =>
          rw [if_pos rfl, Option.toList_none, List.append_nil]
          exact .reading reading calm fun free => absurd (owns.symm.trans free) Bool.true_eq_false.mp
      | false => exact .creating rfl calm rfl (ends owns)
  | MoveActor actorId dest => exact message rfl
  | ChatActor actorId text => exact message rfl
  | DestroyActor actorId =>
      refine .reading reading (calm_append.mpr ⟨calm, calm_cons.mpr ⟨.inr rfl, calm_nil⟩⟩) fun _ _ => ?_
      exact ⟨_, List.mem_append_right _ (List.mem_singleton.mpr rfl), rfl⟩

theorem Turn.resume {reply : Except String ActorId} (turn : Turn registered (some task) pending)
    (waiting : task.phase = .awaitingReply (some reply)) :
    Turn registered (some (task.receiveReply reply)) pending := by
  cases turn with
  | replied phase refused =>
      rw [waiting] at phase
      cases phase
      cases reply with
      | ok id => exact .reading rfl calm_nil fun owns => absurd owns.symm Bool.false_ne_true
      | error e => exact .reading rfl calm_nil fun _ taken => absurd taken (refused e rfl)
  | reading phase | creating phase | leaving phase | left phase =>
      rw [waiting] at phase
      cases phase

theorem Turn.close (turn : Turn registered (some task) pending) (reading : task.phase = .reading)
    (session : SessionId) :
    Turn registered (some (task.disconnect session).1) (pending ++ [(task.disconnect session).2]) :=
  .leaving rfl (turn.of_reading reading).1 rfl

/-- The turn after the first pending command has been handled. -/
def Turned (registered : Prop) (task : Option ConnectionTask) (rest : List EngineCommand) : CommandKind → Prop
  | .create => rest = [] ∧ ¬registered ∧ ∃ waiting, task = some waiting ∧
      waiting.phase = .awaitingReply none
  | .message => Turn registered task rest
  | .destroy => ∀ dropped : Prop, ¬dropped → Turn dropped task rest
  | .disconnect => rest = [] ∧ ∃ leaving, task = some leaving ∧ leaving.phase = .closed

theorem Turn.turned {cmd : EngineCommand} {task : Option ConnectionTask}
    (turn : Turn registered task (cmd :: pending)) : Turned registered task pending (kind cmd) := by
  -- a command with something behind it is calm, and so is what the rest of the turn depends on
  have onward {earlier later : List EngineCommand} (calm : Calm (cmd :: earlier))
      (message : kind cmd = .message → Turn registered task (earlier ++ later))
      (destroy : ∀ dropped : Prop, ¬dropped → Turn dropped task (earlier ++ later)) :
      Turned registered task (earlier ++ later) (kind cmd) := by
    rcases (calm_cons.mp calm).1 with same | same
    · rw [same]
      exact message same
    · rw [same]
      exact destroy
  generalize queue : cmd :: pending = commands at turn
  cases turn with
  | unknown | replied | left => cases queue
  | reading phase calm ends =>
      subst queue
      rw [← List.append_nil pending]
      apply onward calm
      · intro same
        rw [List.append_nil]
        exact .reading phase (calm_cons.mp calm).2 fun free taken => (ends free taken).tail same
      · intro dropped never
        rw [List.append_nil]
        exact .reading phase (calm_cons.mp calm).2 fun _ taken => absurd taken never
  | @creating waiting earlier create phase calm creates ends =>
      cases earlier with
      | nil =>
          cases queue
          rw [creates]
          exact ⟨rfl, fun taken => not_ends_nil (ends taken), waiting, rfl, phase⟩
      | cons first earlier =>
          cases queue
          apply onward calm
          · intro same
            exact .creating phase (calm_cons.mp calm).2 creates fun taken => (ends taken).tail same
          · intro dropped never
            exact .creating phase (calm_cons.mp calm).2 creates fun taken => absurd taken never
  | @leaving closing earlier last phase calm disconnects =>
      cases earlier with
      | nil =>
          cases queue
          rw [disconnects]
          exact ⟨rfl, closing, rfl, phase⟩
      | cons first earlier =>
          cases queue
          apply onward calm
          · exact fun _ => .leaving phase (calm_cons.mp calm).2 disconnects
          · exact fun _ _ => .leaving phase (calm_cons.mp calm).2 disconnects

/-! ## One command of the processor -/

def opened (server : Server) (ord : Order) (session : SessionId) (spec : ActorSpec) (cacheKey : Option String)
    (llmCaches : HashMap String LlmModel) : Server :=
  let (handle, engine) := server.engine.spawnActorForSession ord spec session
  { engine
    nextActorId := server.nextActorId + 1
    sessionHandles := server.sessionHandles.insert session handle
    decisionHandles := server.decisionHandles.insert session ⟨spec, handle, cacheKey⟩
    llmCaches
    running := server.running ++ [⟨spec, handle, cacheKey⟩] }

/-- Everything that handling a command of `session` can do. -/
inductive Processed (server : Server) (ord : Order) (session : SessionId) :
    CommandKind → Option (Except String ActorId) × Server → Prop
  | refused (e : String) : Processed server ord session .create (some (.error e), server)
  | opened (spec : ActorSpec) (cacheKey : Option String) (llmCaches : HashMap String LlmModel) :
      spec.id = ⟨server.nextActorId⟩ → Processed server ord session .create
        (some (.ok spec.id), opened server ord session spec cacheKey llmCaches)
  | dropped : Processed server ord session .message (none, server)
  | sent (handle : ActorHandle) (msg : ActorMessage) : server.sessionHandles.lookup session = some handle →
      Processed server ord session .message
        (none, { server with engine := (server.engine.send handle msg).2 })
  | destroyed : Processed server ord session .destroy (none, server.endSession session)
  | disconnected : Processed server ord session .disconnect (none, server.endSession session)

theorem processed_sendTo (server : Server) (ord : Order) (session : SessionId) (msg : ActorMessage) :
    Processed server ord session .message (none, server.sendTo session msg) := by
  unfold Server.sendTo
  cases found : server.sessionHandles.lookup session with
  | none => exact .dropped
  | some handle => exact .sent handle msg found

theorem processed (server : Server) (ord : Order) (cmd : EngineCommand) :
    Processed server ord cmd.session (kind cmd) (server.process ord cmd) := by
  cases cmd with
  | CreateActor session name personality backstory model position role faction =>
      simp only [Server.process, Server.createActor]
      split_ifs
      · exact .refused _
      · exact .refused _
      · exact .refused _
      · exact .opened ⟨⟨server.nextActorId⟩, name, personality, backstory, model, position.clampToWorld,
          role.getD .default, faction.getD .default⟩ (some model.toString) _ rfl
      · exact .opened ⟨⟨server.nextActorId⟩, name, personality, backstory, model, position.clampToWorld,
          role.getD .default, faction.getD .default⟩ (some model.toString) _ rfl
  | MoveActor session dest => exact processed_sendTo server ord session _
  | ChatActor session text =>
      simp only [Server.process]
      split_ifs
      · exact .dropped
      · exact processed_sendTo server ord session _
  | DestroyActor session actorId => exact .destroyed
  | SessionDisconnect session => exact .disconnected

/-! ## The books -/

/-- The maps of the processor and of the engine describe the same sessions; who was spawned for a session
and is live is its actor, and whose loop runs has its join handle. -/
structure Booked (server : Server) (spawned : List (SessionId × ActorId)) (issued : List ActorId) : Prop where
  sessionHandles : ∀ session, session ∈ server.sessionHandles ↔ session ∈ server.engine.sessionQueues
  decisionHandles : ∀ session, session ∈ server.decisionHandles ↔ session ∈ server.engine.sessionQueues
  anchors : ∀ session, session ∈ server.engine.interest.sessionAnchors ↔ session ∈ server.engine.sessionQueues
  owners : ∀ session, session ∈ server.engine.sessionToActor ↔ session ∈ server.engine.sessionQueues
  owned : ∀ session id, (session, id) ∈ spawned → id ∈ server.engine.runtime.actors →
    server.engine.sessionToActor.lookup session = some id
  recorded : ∀ session id, server.engine.sessionToActor.lookup session = some id → (session, id) ∈ spawned
  started : ∀ session, ∀ dl ∈ server.running, (session, dl.spec.id) ∈ spawned →
    server.decisionHandles.lookup session = some dl
  joined : ∀ session dl, server.decisionHandles.lookup session = some dl → (session, dl.spec.id) ∈ spawned
  once : ∀ session dl, (session, dl.spec.id) ∈ spawned → server.running.count dl ≤ 1
  sole : ∀ session other id, (session, id) ∈ spawned → (other, id) ∈ spawned → session = other
  known : ∀ id ∈ server.engine.runtime.actors, id ∈ issued
  loops : ∀ dl ∈ server.running, dl.spec.id ∈ issued
  guests : ∀ session id, (session, id) ∈ spawned → id ∈ issued
  allocated : ∀ id actor, server.engine.runtime.actors.lookup id = some actor →
    actor.inbox < server.engine.runtime.inboxes.next
  posted : ∀ session handle, server.sessionHandles.lookup session = some handle →
    handle.sender < server.engine.runtime.inboxes.next ∧
      ∀ id actor, server.engine.runtime.actors.lookup id = some actor → actor.inbox = handle.sender →
        (session, id) ∈ spawned

variable {spawned : List (SessionId × ActorId)} {issued : List ActorId}

theorem Booked.undisturbed (inv : Booked server spawned issued) {engine : WorldEngine}
    (calm : Undisturbed server.engine engine) : Booked { server with engine } spawned issued := by
  have live : ∀ id ∈ engine.runtime.actors, id ∈ server.engine.runtime.actors := by
    intro id member
    obtain ⟨actor, found⟩ := HashMap.lookup_of_mem member
    obtain ⟨old, before, -⟩ := calm.actors id actor found
    exact HashMap.mem_of_lookup before
  refine
    { sessionHandles := fun session => (inv.sessionHandles session).trans (calm.queues session).symm
      decisionHandles := fun session => (inv.decisionHandles session).trans (calm.queues session).symm
      anchors := fun session => (calm.anchors session).trans ((inv.anchors session).trans (calm.queues session).symm)
      owners := fun session => ?_
      owned := fun session id given member => ?_
      recorded := fun session id found => ?_
      started := inv.started
      joined := inv.joined
      once := inv.once
      sole := inv.sole
      known := fun id member => inv.known id (live id member)
      loops := inv.loops
      guests := inv.guests
      allocated := fun id actor found => ?_
      posted := fun session handle held => ?_ }
  · rw [calm.owners]
    exact (inv.owners session).trans (calm.queues session).symm
  · rw [calm.owners]
    exact inv.owned session id given (live id member)
  · rw [calm.owners] at found
    exact inv.recorded session id found
  · obtain ⟨old, before, same⟩ := calm.actors id actor found
    rw [calm.next, ← same]
    exact inv.allocated id old before
  · obtain ⟨bound, mine⟩ := inv.posted session handle held
    rw [calm.next]
    refine ⟨bound, fun id actor found feeds => ?_⟩
    obtain ⟨old, before, same⟩ := calm.actors id actor found
    exact mine id old before (same.trans feeds)

/-! ### A new session -/

theorem Booked.unowned (inv : Booked server spawned issued) {id : ActorId} (fresh : id ∉ issued)
    (other : SessionId) : (other, id) ∉ spawned :=
  fun old => fresh (inv.guests other id old)

theorem mem_insert_iff {V W : Type} {m : HashMap SessionId V} {queues : HashMap SessionId W}
    (same : ∀ other, other ∈ m ↔ other ∈ queues) (v : V) (w : W) (other : SessionId) :
    other ∈ m.insert session v ↔ other ∈ queues.insert session w := by
  rw [AList.mem_insert, AList.mem_insert, same]

section NewSession
variable {other : SessionId} {id : ActorId} {spec : ActorSpec} {dl loop : DecisionLoop}
  {actor : Actor} {handle opening : ActorHandle}

theorem Booked.newOwner (inv : Booked server spawned issued) (fresh : spec.id ∉ issued)
    (free : session ∉ server.engine.sessionQueues) (given : (other, id) ∈ (session, spec.id) :: spawned)
    (live : id ∈ (server.engine.runtime.spawnActor spec).2.actors) :
    (server.engine.sessionToActor.insert session spec.id).lookup other = some id := by
  rw [HashMap.lookup_insert_absent fun member => free ((inv.owners session).mp member)]
  rcases List.mem_cons.mp given with now | old
  · cases now
    exact .inl ⟨rfl, rfl⟩
  · rcases (mem_spawnActor _ spec id).mp live with rfl | before
    · exact absurd old (inv.unowned fresh other)
    · exact .inr (inv.owned other id old before)

theorem Booked.newOwner_spawned (inv : Booked server spawned issued) (free : session ∉ server.engine.sessionQueues)
    (found : (server.engine.sessionToActor.insert session spec.id).lookup other = some id) :
    (other, id) ∈ (session, spec.id) :: spawned := by
  rw [HashMap.lookup_insert_absent fun member => free ((inv.owners session).mp member)] at found
  rcases found with ⟨rfl, rfl⟩ | old
  · exact List.mem_cons_self
  · exact List.mem_cons_of_mem _ (inv.recorded other id old)

theorem Booked.newLoop (inv : Booked server spawned issued) (fresh : loop.spec.id ∉ issued)
    (free : session ∉ server.engine.sessionQueues) (member : dl ∈ server.running ++ [loop])
    (given : (other, dl.spec.id) ∈ (session, loop.spec.id) :: spawned) :
    (server.decisionHandles.insert session loop).lookup other = some dl := by
  rw [HashMap.lookup_insert_absent fun member => free ((inv.decisionHandles session).mp member)]
  rcases List.mem_append.mp member with old | new
  · have before := inv.loops dl old
    rcases List.mem_cons.mp given with now | given
    · rw [(Prod.mk.inj now).2] at before
      exact absurd before fresh
    · exact .inr (inv.started other dl old given)
  · rw [List.mem_singleton] at new
    subst new
    rcases List.mem_cons.mp given with now | given
    · exact .inl ⟨(Prod.mk.inj now).1, rfl⟩
    · exact absurd given (inv.unowned fresh other)

theorem Booked.newLoop_spawned (inv : Booked server spawned issued) (free : session ∉ server.engine.sessionQueues)
    (held : (server.decisionHandles.insert session loop).lookup other = some dl) :
    (other, dl.spec.id) ∈ (session, loop.spec.id) :: spawned := by
  rw [HashMap.lookup_insert_absent fun member => free ((inv.decisionHandles session).mp member)] at held
  rcases held with ⟨rfl, rfl⟩ | old
  · exact List.mem_cons_self
  · exact List.mem_cons_of_mem _ (inv.joined other dl old)

theorem Booked.newLoop_once (inv : Booked server spawned issued) (fresh : loop.spec.id ∉ issued)
    (given : (other, dl.spec.id) ∈ (session, loop.spec.id) :: spawned) :
    (server.running ++ [loop]).count dl ≤ 1 := by
  rw [List.count_append]
  by_cases new : dl.spec.id = loop.spec.id
  · have absent : server.running.count dl = 0 :=
      List.count_eq_zero.mpr fun member => fresh (new ▸ inv.loops dl member)
    rw [absent, Nat.zero_add]
    exact List.count_le_length
  · rw [List.count_singleton, if_neg, Nat.add_zero]
    · rcases List.mem_cons.mp given with now | given
      · exact absurd (Prod.mk.inj now).2 new
      · exact inv.once _ dl given
    · intro same
      exact new (congrArg (fun loop : DecisionLoop => loop.spec.id) (beq_iff_eq.mp same)).symm

theorem Booked.newGuest (inv : Booked server spawned issued) {new : ActorId} (fresh : new ∉ issued)
    {one two : SessionId} (first : (one, id) ∈ (session, new) :: spawned)
    (second : (two, id) ∈ (session, new) :: spawned) : one = two := by
  rcases List.mem_cons.mp first with now | before
  · cases now
    rcases List.mem_cons.mp second with now | after
    · cases now
      rfl
    · exact absurd after (inv.unowned fresh two)
  · rcases List.mem_cons.mp second with now | after
    · cases now
      exact absurd before (inv.unowned fresh one)
    · exact inv.sole one two id before after

theorem Booked.newActor (inv : Booked server spawned issued)
    (found : (server.engine.runtime.spawnActor spec).2.actors.lookup id = some actor) :
    actor.inbox < server.engine.runtime.inboxes.next + 1 := by
  rcases spawnActor_either found with ⟨-, rfl⟩ | ⟨-, old⟩
  · exact Nat.lt_succ_self _
  · exact Nat.lt_succ_of_lt (inv.allocated id actor old)

/-- The new handle feeds the inbox that the spawn allocates, an old one an inbox from before. -/
theorem Booked.newHandle (inv : Booked server spawned issued) (free : session ∉ server.engine.sessionQueues)
    (sender : opening.sender = server.engine.runtime.inboxes.next)
    (held : (server.sessionHandles.insert session opening).lookup other = some handle) :
    handle.sender < server.engine.runtime.inboxes.next + 1 ∧
      ∀ id actor, (server.engine.runtime.spawnActor spec).2.actors.lookup id = some actor →
        actor.inbox = handle.sender → (other, id) ∈ (session, spec.id) :: spawned := by
  rw [HashMap.lookup_insert_absent fun member => free ((inv.sessionHandles session).mp member)] at held
  rcases held with ⟨rfl, rfl⟩ | old
  · rw [sender]
    refine ⟨Nat.lt_succ_self _, fun id actor found feeds => ?_⟩
    rcases spawnActor_either found with ⟨rfl, -⟩ | ⟨-, before⟩
    · exact List.mem_cons_self
    · exact absurd feeds (Nat.ne_of_lt (inv.allocated id actor before))
  · obtain ⟨bound, mine⟩ := inv.posted other handle old
    refine ⟨Nat.lt_succ_of_lt bound, fun id actor found feeds => ?_⟩
    rcases spawnActor_either found with ⟨-, rfl⟩ | ⟨-, before⟩
    · exact absurd feeds (Nat.ne_of_gt bound)
    · exact List.mem_cons_of_mem _ (mine id actor before feeds)

end NewSession

theorem Booked.newSession (inv : Booked server spawned issued) (ord : Order) {session : SessionId} {spec : ActorSpec}
    (cacheKey : Option String) (llmCaches : HashMap String LlmModel) (fresh : spec.id ∉ issued)
    (free : session ∉ server.engine.sessionQueues) :
    Booked (opened server ord session spec cacheKey llmCaches) ((session, spec.id) :: spawned)
      (spec.id :: issued) where
  sessionHandles := mem_insert_iff inv.sessionHandles _ _
  decisionHandles := mem_insert_iff inv.decisionHandles _ _
  anchors := mem_insert_iff inv.anchors _ _
  owners := mem_insert_iff inv.owners _ _
  owned _ _ given live := inv.newOwner fresh free given live
  recorded _ _ found := inv.newOwner_spawned free found
  started _ _ member given := inv.newLoop fresh free member given
  joined _ _ held := inv.newLoop_spawned free held
  once _ _ given := inv.newLoop_once fresh given
  sole _ _ _ first second := inv.newGuest fresh first second
  known id live := by
    rcases (mem_spawnActor _ spec id).mp live with rfl | before
    · exact List.mem_cons_self
    · exact List.mem_cons_of_mem _ (inv.known id before)
  loops dl member := by
    rcases List.mem_append.mp member with old | new
    · exact List.mem_cons_of_mem _ (inv.loops dl old)
    · rw [List.mem_singleton.mp new]
      exact List.mem_cons_self
  guests other id given := by
    rcases List.mem_cons.mp given with now | old
    · cases now
      exact List.mem_cons_self
    · exact List.mem_cons_of_mem _ (inv.guests other id old)
  allocated _ _ found := inv.newActor found
  posted _ _ held := inv.newHandle free rfl held

/-! ### The end of a session -/

theorem mem_erase_count {dl other : DecisionLoop} {running : List DecisionLoop} (once : running.count dl ≤ 1)
    (member : other ∈ running.erase dl) : other ≠ dl := by
  rintro rfl
  have positive := List.count_pos_iff.mpr member
  rw [List.count_erase_self] at positive
  omega

theorem running_endSession (server : Server) (session : SessionId) :
    (server.endSession session).running.Sublist server.running := by
  unfold Server.endSession
  cases server.decisionHandles.lookup session with
  | none => exact .refl _
  | some dl => exact List.erase_sublist

-- the loop that is aborted is the only one of the session
theorem Booked.aborted (inv : Booked server spawned issued) {dl : DecisionLoop}
    (member : dl ∈ (server.endSession session).running) : (session, dl.spec.id) ∉ spawned := by
  intro given
  have held := inv.started session dl ((running_endSession server session).subset member) given
  simp only [Server.endSession, held] at member
  exact mem_erase_count (inv.once session dl given) member rfl

theorem removeSession_some {engine : WorldEngine} {id : ActorId} {actor : Actor}
    (found : (engine.removeSession session true).runtime.actors.lookup id = some actor) :
    engine.sessionToActor.lookup session ≠ some id ∧ engine.runtime.actors.lookup id = some actor := by
  rw [removeSession_lookup] at found
  split_ifs at found with mine
  exact ⟨fun owned => mine ⟨rfl, owned⟩, found⟩

theorem mem_removeSession {engine : WorldEngine} {id : ActorId}
    (member : id ∈ (engine.removeSession session true).runtime.actors) :
    engine.sessionToActor.lookup session ≠ some id ∧ id ∈ engine.runtime.actors := by
  obtain ⟨actor, found⟩ := HashMap.lookup_of_mem member
  exact (removeSession_some found).imp_right HashMap.mem_of_lookup

theorem Booked.endSession (inv : Booked server spawned issued) (session : SessionId) :
    Booked (server.endSession session) spawned issued := by
  have fewer := running_endSession server session
  have keys {V : Type} {m : HashMap SessionId V} (same : ∀ other, other ∈ m ↔ other ∈ server.engine.sessionQueues)
      (other : SessionId) :
      other ∈ m.erase session ↔ other ∈ (server.engine.removeSession session true).sessionQueues := by
    rw [removeSession_queues, AList.mem_erase, AList.mem_erase, same]
  refine
    { sessionHandles := keys inv.sessionHandles
      decisionHandles := keys inv.decisionHandles
      anchors := fun other => ?_
      owners := fun other => ?_
      owned := fun other id given member => ?_
      recorded := fun other id found => ?_
      started := fun other dl member given => ?_
      joined := fun other dl held => ?_
      once := fun other dl given => (fewer.count_le dl).trans (inv.once other dl given)
      sole := inv.sole
      known := fun id member => inv.known id (mem_removeSession member).2
      loops := fun dl member => inv.loops dl (fewer.subset member)
      guests := inv.guests
      allocated := fun id actor found => ?_
      posted := fun other handle held => ?_ }
  · change other ∈ (server.engine.removeSession session true).interest.sessionAnchors ↔ _
    rw [removeSession_interest]
    exact keys inv.anchors other
  · rw [← AList.lookup_isSome]
    change ((server.engine.removeSession session true).sessionToActor.lookup other).isSome ↔ _
    rw [removeSession_owners, ← HashMap.lookup_erase_eq, AList.lookup_isSome]
    exact keys inv.owners other
  · change (server.engine.removeSession session true).sessionToActor.lookup other = _
    obtain ⟨notMine, before⟩ := mem_removeSession member
    have found := inv.owned other id given before
    rw [removeSession_owners, if_neg, found]
    rintro rfl
    exact notMine found
  · change (server.engine.removeSession session true).sessionToActor.lookup other = _ at found
    rw [removeSession_owners] at found
    split_ifs at found
    exact inv.recorded other id found
  · change (server.decisionHandles.erase session).lookup other = _
    rw [HashMap.lookup_erase_eq, if_neg, inv.started other dl (fewer.subset member) given]
    rintro rfl
    exact inv.aborted member given
  · change (server.decisionHandles.erase session).lookup other = _ at held
    rw [HashMap.lookup_erase_eq] at held
    split_ifs at held
    exact inv.joined other dl held
  · change _ < (server.engine.removeSession session true).runtime.inboxes.next
    rw [removeSession_inboxes]
    exact inv.allocated id actor (removeSession_some found).2
  · change (server.sessionHandles.erase session).lookup other = _ at held
    change _ < (server.engine.removeSession session true).runtime.inboxes.next ∧ _
    rw [removeSession_inboxes]
    rw [HashMap.lookup_erase_eq] at held
    split_ifs at held
    obtain ⟨bound, mine⟩ := inv.posted other handle held
    exact ⟨bound, fun id actor found => mine id actor (removeSession_some found).2⟩

/-! ## The invariant -/

def pendingOf (channel : List EngineCommand) (session : SessionId) : List EngineCommand :=
  channel.filter fun cmd => cmd.session = session

theorem pendingOf_append (channel sent : List EngineCommand) (session : SessionId) :
    pendingOf (channel ++ sent) session = pendingOf channel session ++ pendingOf sent session :=
  List.filter_append channel sent

theorem pendingOf_own {sent : List EngineCommand} (own : ∀ cmd ∈ sent, cmd.session = session) :
    pendingOf sent session = sent :=
  List.filter_eq_self.mpr fun cmd member => decide_eq_true (own cmd member)

theorem pendingOf_other {sent : List EngineCommand} (own : ∀ cmd ∈ sent, cmd.session = session)
    {other : SessionId} (different : other ≠ session) : pendingOf sent other = [] := by
  refine List.filter_eq_nil_iff.mpr fun cmd member same => different ?_
  exact (of_decide_eq_true same).symm.trans (own cmd member)

structure Orderly (s : Service) : Prop where
  booked : Booked s.server s.spawned s.issued
  turn : ∀ session, Turn (s.Registered session) (s.tasks session) (pendingOf s.channel session)
  gone : ∀ session ∈ s.disconnected, pendingOf s.channel session = [] ∧
    ∃ task, s.tasks session = some task ∧ task.phase = .closed

theorem Orderly.unregistered (inv : Orderly s) (gone : session ∈ s.disconnected) : ¬s.Registered session := by
  obtain ⟨empty, task, found, closed⟩ := inv.gone session gone
  have turn := inv.turn session
  rw [empty, found] at turn
  generalize queue : ([] : List EngineCommand) = pending at turn
  cases turn with
  | left _ free => exact free
  | leaving => exact absurd queue (List.append_ne_nil_of_right_ne_nil _ (List.cons_ne_nil _ _)).symm
  | reading phase | creating phase | replied phase =>
      rw [closed] at phase
      cases phase

/-- A task moves on and sends commands of its own. -/
theorem Orderly.advance (inv : Orderly s) {sent : List EngineCommand} (here : session ∉ s.disconnected)
    (own : ∀ cmd ∈ sent, cmd.session = session)
    (turn : Turn (s.Registered session) (some task) (pendingOf s.channel session ++ sent)) :
    Orderly { s.setTask session task with channel := s.channel ++ sent } := by
  refine ⟨inv.booked, fun other => ?_, fun other gone => ?_⟩
  · change Turn (s.Registered other) (Function.update s.tasks session (some task) other) _
    rw [pendingOf_append]
    by_cases same : other = session
    · subst same
      rw [Function.update_self, pendingOf_own own]
      exact turn
    · rw [Function.update_of_ne same, pendingOf_other own same, List.append_nil]
      exact inv.turn other
  · have different : other ≠ session := by
      rintro rfl
      exact here gone
    obtain ⟨empty, closed⟩ := inv.gone other gone
    change _ ∧ ∃ task', Function.update s.tasks session (some task) other = some task' ∧ _
    rw [pendingOf_append, pendingOf_other own different, List.append_nil, Function.update_of_ne different]
    exact ⟨empty, closed⟩

theorem Orderly.resumed (inv : Orderly s) (here : session ∉ s.disconnected)
    (turn : Turn (s.Registered session) (some task) (pendingOf s.channel session)) :
    Orderly (s.setTask session task) := by
  rw [← List.append_nil (pendingOf s.channel session)] at turn
  have advanced := inv.advance here (fun _ member => absurd member List.not_mem_nil) turn
  rw [List.append_nil] at advanced
  exact advanced

theorem Orderly.present (inv : Orderly s) (found : s.tasks session = some task) (here : task.phase ≠ .closed) :
    session ∉ s.disconnected := by
  intro gone
  obtain ⟨-, other, same, closed⟩ := inv.gone session gone
  cases found.symm.trans same
  exact here closed

theorem handleClientCommand_session (task : ConnectionTask) (session : SessionId) (cmd : ClientCommand) :
    ∀ sent ∈ (task.handleClientCommand session cmd).2.toList, sent.session = session := by
  cases cmd with
  | CreateActor name personality backstory model position role faction =>
      simp only [ConnectionTask.handleClientCommand]
      split_ifs
      · exact fun sent member => absurd member List.not_mem_nil
      · intro sent member
        rw [List.mem_singleton.mp member]
        rfl
  | MoveActor | ChatActor | DestroyActor =>
      intro sent member
      rw [List.mem_singleton.mp member]
      rfl

theorem sendCommand_eq {channel after : List EngineCommand} {sent : Option EngineCommand}
    (fits : sendCommand channel sent = some after) : after = channel ++ sent.toList := by
  cases sent with
  | none =>
      cases fits
      exact (List.append_nil _).symm
  | some cmd =>
      simp only [sendCommand] at fits
      split_ifs at fits
      exact (Option.some.inj fits).symm

theorem Orderly.undisturbed (inv : Orderly s) {engine : WorldEngine} (calm : Undisturbed s.server.engine engine) :
    Orderly { s with server := { s.server with engine } } := by
  refine ⟨inv.booked.undisturbed calm, fun session => ?_, inv.gone⟩
  have same : s.Registered session = (session ∈ engine.sessionQueues) := propext (calm.queues session).symm
  change Turn (session ∈ engine.sessionQueues) _ _
  rw [← same]
  exact inv.turn session

theorem Orderly.background (inv : Orderly s) {step : ServerStep} {after : Service}
    (moved : s.next (.server step) = some after) : Orderly after := by
  cases step with
  | command ord cmd => cases moved
  | agent handle decision =>
      cases moved
      exact inv.undisturbed (effected_send s.server.engine handle decision.message).undisturbed
  | directive order =>
      cases moved
      exact inv.undisturbed (effected_applyDirective s.server.engine order).undisturbed
  | pump session =>
      cases moved
      exact inv.undisturbed (undisturbed_drainSession s.server.engine session)
  | tick ord clock =>
      cases moved
      exact inv.undisturbed (undisturbed_tick s.server.engine ord clock)

/-! ## Handling a command -/

theorem leaver_of_kind {cmd : EngineCommand} (other : kind cmd ≠ .disconnect) : Service.leaver cmd = none := by
  cases cmd with
  | SessionDisconnect session => exact absurd rfl other
  | _ => rfl

theorem leaver_of_disconnect {cmd : EngineCommand} (leaves : kind cmd = .disconnect) :
    Service.leaver cmd = some cmd.session := by
  cases cmd with
  | SessionDisconnect session => rfl
  | _ => cases leaves

theorem mem_opened (server : Server) (ord : Order) (session : SessionId) (spec : ActorSpec) (cacheKey : Option String)
    (llmCaches : HashMap String LlmModel) (other : SessionId) :
    other ∈ (opened server ord session spec cacheKey llmCaches).engine.sessionQueues ↔
      other = session ∨ other ∈ server.engine.sessionQueues :=
  AList.mem_insert server.engine.sessionQueues

theorem mem_endSession (server : Server) (session other : SessionId) :
    other ∈ (server.endSession session).engine.sessionQueues ↔
      other ≠ session ∧ other ∈ server.engine.sessionQueues := by
  change other ∈ (server.engine.removeSession session true).sessionQueues ↔ _
  rw [removeSession_queues, AList.mem_erase]

section Handled
variable {cmd : EngineCommand} {rest : List EngineCommand}

theorem pendingOf_head (queue : s.channel = cmd :: rest) :
    pendingOf s.channel cmd.session = cmd :: pendingOf rest cmd.session := by
  rw [queue]
  exact List.filter_cons_of_pos (decide_eq_true rfl)

theorem pendingOf_rest (queue : s.channel = cmd :: rest) {other : SessionId} (different : other ≠ cmd.session) :
    pendingOf rest other = pendingOf s.channel other := by
  rw [queue]
  exact (List.filter_cons_of_neg (by simpa using different.symm)).symm

/-- The session of the command is the only one whose turn has to be looked at. -/
theorem Orderly.settle (inv : Orderly s) (queue : s.channel = cmd :: rest) {server : Server}
    {spawned : List (SessionId × ActorId)} {disconnected : List SessionId} {issued : List ActorId}
    {tasks : SessionId → Option ConnectionTask} (booked : Booked server spawned issued)
    (queues : ∀ other, other ≠ cmd.session → (other ∈ server.engine.sessionQueues ↔ s.Registered other))
    (others : ∀ other, other ≠ cmd.session → tasks other = s.tasks other)
    (turn : Turn (cmd.session ∈ server.engine.sessionQueues) (tasks cmd.session) (pendingOf rest cmd.session))
    (leaving : ∀ session ∈ disconnected, session ∈ s.disconnected ∨ session = cmd.session ∧
      pendingOf rest session = [] ∧ ∃ task, tasks session = some task ∧ task.phase = .closed) :
    Orderly { s with server, channel := rest, spawned, disconnected, issued, tasks } := by
  refine ⟨booked, fun session => ?_, fun session gone => ?_⟩
  · change Turn (session ∈ server.engine.sessionQueues) (tasks session) (pendingOf rest session)
    by_cases same : session = cmd.session
    · subst same
      exact turn
    · rw [pendingOf_rest queue same, others session same, propext (queues session same)]
      exact inv.turn session
  · rcases leaving session gone with before | ⟨-, now⟩
    · have different : session ≠ cmd.session := by
        rintro rfl
        have empty := (inv.gone _ before).1
        rw [pendingOf_head queue] at empty
        cases empty
      change pendingOf rest session = [] ∧ ∃ task, tasks session = some task ∧ _
      rw [pendingOf_rest queue different, others session different]
      exact inv.gone session before
    · exact now

theorem Orderly.handled (inv : Orderly s) (queue : s.channel = cmd :: rest) {ord : Order}
    (fresh : ∀ id ∈ Service.created (s.server.process ord cmd).1, id ∉ s.issued) :
    Orderly (s.handled ord cmd rest) := by
  have turned := inv.turn cmd.session
  rw [pendingOf_head queue] at turned
  replace turned := turned.turned
  have result := processed s.server ord cmd
  unfold Service.handled
  generalize s.server.process ord cmd = outcome at result fresh
  generalize called : kind cmd = sort at result turned
  have old {session : SessionId} (member : session ∈ (Service.leaver cmd).toList ++ s.disconnected)
      (other : sort ≠ .disconnect) : session ∈ s.disconnected := by
    subst sort
    rw [leaver_of_kind other] at member
    exact member
  have replied {reply : Except String ActorId} {waiting : ConnectionTask}
      (phase : waiting.phase = .awaitingReply none) :
      (waiting.answer reply).phase = .awaitingReply (some reply) := by
    rw [ConnectionTask.answer, phase]
  cases result with
  | refused e =>
      obtain ⟨last, free, waiting, found, phase⟩ := turned
      simp only [Service.deliver, found]
      refine inv.settle queue inv.booked (fun _ _ => .rfl) (fun other different => ?_) ?_ ?_
      · exact Function.update_of_ne different _ _
      · rw [last, Function.update_self]
        exact .replied (replied phase) fun _ _ => free
      · exact fun session gone => .inl (old gone (by simp))
  | opened spec cacheKey llmCaches numbered =>
      obtain ⟨last, free, waiting, found, phase⟩ := turned
      simp only [Service.deliver, found]
      refine inv.settle queue (inv.booked.newSession ord cacheKey llmCaches (fresh _ rfl) free)
        (fun other different => ?_) (fun other different => ?_) ?_ ?_
      · exact (mem_opened s.server ord _ spec cacheKey llmCaches other).trans (or_iff_right different)
      · exact Function.update_of_ne different _ _
      · rw [last, Function.update_self]
        refine .replied (replied phase) ?_
        intro e refused
        cases refused
      · exact fun session gone => .inl (old gone (by simp))
  | dropped =>
      refine inv.settle queue inv.booked (fun _ _ => .rfl) (fun _ _ => rfl) turned ?_
      exact fun session gone => .inl (old gone (by simp))
  | sent handle msg held =>
      have calm := (effected_send s.server.engine handle msg).undisturbed
      refine inv.settle queue (inv.booked.undisturbed calm) (fun other _ => calm.queues other) (fun _ _ => rfl) ?_ ?_
      · exact turned
      · exact fun session gone => .inl (old gone (by simp))
  | destroyed =>
      refine inv.settle queue (inv.booked.endSession cmd.session) (fun other different => ?_) (fun _ _ => rfl) ?_ ?_
      · exact (mem_endSession s.server _ other).trans (and_iff_right different)
      · exact turned _ fun taken => ((mem_endSession s.server _ _).mp taken).1 rfl
      · exact fun session gone => .inl (old gone (by simp))
  | disconnected =>
      obtain ⟨last, leaving, found, closed⟩ := turned
      refine inv.settle queue (inv.booked.endSession cmd.session) (fun other different => ?_) (fun _ _ => rfl) ?_ ?_
      · exact (mem_endSession s.server _ other).trans (and_iff_right different)
      · rw [last, found]
        exact .left closed fun taken => ((mem_endSession s.server _ _).mp taken).1 rfl
      · intro session gone
        rw [leaver_of_disconnect called] at gone
        rcases List.mem_cons.mp gone with same | before
        · subst same
          exact .inr ⟨rfl, last, leaving, found, closed⟩
        · exact .inl before

end Handled

/-! ## All reachable states -/

structure Cold (server : Server) : Prop where
  sessionHandles : server.sessionHandles = ∅
  decisionHandles : server.decisionHandles = ∅
  queues : server.engine.sessionQueues = ∅
  anchors : server.engine.interest.sessionAnchors = ∅
  owners : server.engine.sessionToActor = ∅
  known : ∀ id ∈ server.engine.runtime.actors, id ∈ server.running.map fun dl => dl.spec.id
  allocated : ∀ id actor, server.engine.runtime.actors.lookup id = some actor →
    actor.inbox < server.engine.runtime.inboxes.next

theorem Cold.spawnResident (cold : Cold server) (spec : ActorSpec) : Cold (server.spawnResident spec) := by
  refine ⟨cold.sessionHandles, cold.decisionHandles, cold.queues, cold.anchors, cold.owners, ?_, ?_⟩
  · intro id live
    change id ∈ (server.running ++ [_]).map _
    rw [List.map_append, List.mem_append]
    rcases (AList.mem_insert _).mp live with same | old
    · exact .inr (List.mem_singleton.mpr same)
    · exact .inl (cold.known id old)
  · intro id actor found
    change _ < server.engine.runtime.inboxes.next + 1
    change (server.engine.runtime.spawnActor spec).2.actors.lookup id = _ at found
    rw [spawnActor_lookup] at found
    split_ifs at found
    · cases found
      exact Nat.lt_succ_self _
    · exact Nat.lt_succ_of_lt (cold.allocated id actor found)

theorem Cold.residents (cold : Cold server) (specs : List ActorSpec) :
    Cold (specs.foldl Server.spawnResident server) := by
  induction specs generalizing server with
  | nil => exact cold
  | cons spec rest ih => exact ih (cold.spawnResident spec)

theorem cold_boot (cfg : WorldConfig) (stored : Except SnapshotError (Option WorldSnapshot)) :
    Cold (Server.boot cfg stored) := by
  have empty (nextActorId : UInt64) : Cold { Server.new cfg with nextActorId } :=
    ⟨rfl, rfl, rfl, rfl, rfl, fun id live => absurd live (AList.notMem_empty id),
      fun id actor found => absurd (HashMap.mem_of_lookup found) (AList.notMem_empty id)⟩
  cases stored with
  | error e => exact empty 1
  | ok latest =>
      cases latest with
      | some snapshot => exact (empty 1).residents _
      | none => exact (empty _).residents _

theorem Cold.booked (cold : Cold server) : Booked server [] (server.running.map fun dl => dl.spec.id) := by
  have none {V W : Type} {m : HashMap SessionId V} {queues : HashMap SessionId W} (empty : m = ∅)
      (empty' : queues = ∅) (session : SessionId) : session ∈ m ↔ session ∈ queues := by
    rw [empty, empty']
    exact iff_of_false (AList.notMem_empty session) (AList.notMem_empty session)
  refine
    { sessionHandles := none cold.sessionHandles cold.queues
      decisionHandles := none cold.decisionHandles cold.queues
      anchors := none cold.anchors cold.queues
      owners := none cold.owners cold.queues
      owned := fun _ _ given => absurd given List.not_mem_nil
      recorded := fun session id found => ?_
      started := fun _ _ _ given => absurd given List.not_mem_nil
      joined := fun session dl held => ?_
      once := fun _ _ given => absurd given List.not_mem_nil
      sole := fun _ _ _ given => absurd given List.not_mem_nil
      known := cold.known
      loops := fun dl member => List.mem_map_of_mem member
      guests := fun _ _ given => absurd given List.not_mem_nil
      allocated := cold.allocated
      posted := fun session handle held => ?_ }
  · rw [cold.owners] at found
    exact absurd (HashMap.mem_of_lookup found) (AList.notMem_empty session)
  · rw [cold.decisionHandles] at held
    exact absurd (HashMap.mem_of_lookup held) (AList.notMem_empty session)
  · rw [cold.sessionHandles] at held
    exact absurd (HashMap.mem_of_lookup held) (AList.notMem_empty session)

theorem orderly_start (cfg : WorldConfig) (stored : Except SnapshotError (Option WorldSnapshot)) :
    Orderly (.start cfg stored) := by
  have cold := cold_boot cfg stored
  refine ⟨cold.booked, fun session => .unknown ?_, fun _ gone => absurd gone List.not_mem_nil⟩
  change ¬session ∈ (Server.boot cfg stored).engine.sessionQueues
  rw [cold.queues]
  exact AList.notMem_empty session

theorem Orderly.next (inv : Orderly s) {step : ServiceStep} {after : Service} (fresh : s.FreshIds step)
    (moved : s.next step = some after) : Orderly after := by
  cases step with
  | accept =>
      cases moved
      have turn := inv.turn ⟨s.nextSessionId⟩
      rw [show s.tasks ⟨s.nextSessionId⟩ = none from fresh] at turn
      have unheard : (⟨s.nextSessionId⟩ : SessionId) ∉ s.disconnected := by
        intro gone
        obtain ⟨-, task, found, -⟩ := inv.gone _ gone
        cases found.symm.trans fresh
      have connected : Orderly (s.setTask ⟨s.nextSessionId⟩ .new) := by
        apply inv.resumed unheard
        generalize pendingOf s.channel ⟨s.nextSessionId⟩ = pending at turn
        cases turn with
        | unknown free => exact .reading rfl calm_nil fun _ taken => absurd taken free
      exact ⟨connected.booked, connected.turn, connected.gone⟩
  | receive session cmd =>
      simp only [Service.next, Option.bind_eq_some_iff] at moved
      obtain ⟨task, found, moved⟩ := moved
      split_ifs at moved with reading
      obtain ⟨channel, fits, rfl⟩ := Option.map_eq_some_iff.mp moved
      rw [sendCommand_eq fits]
      have turn := inv.turn session
      rw [found] at turn
      refine inv.advance (inv.present found ?_) (handleClientCommand_session task session cmd)
        (turn.receive reading session cmd)
      rw [reading]
      exact TaskPhase.noConfusion
  | resume session =>
      simp only [Service.next, Option.bind_eq_some_iff] at moved
      obtain ⟨task, found, moved⟩ := moved
      have turn := inv.turn session
      rw [found] at turn
      cases waiting : task.phase with
      | awaitingReply oneshot =>
          cases oneshot with
          | none => simp [waiting] at moved
          | some reply =>
              simp only [waiting, Option.some.injEq] at moved
              subst moved
              exact inv.resumed (inv.present found (by simp [waiting])) (turn.resume waiting)
      | _ => simp [waiting] at moved
  | close session =>
      simp only [Service.next, Option.bind_eq_some_iff] at moved
      obtain ⟨task, found, moved⟩ := moved
      split_ifs at moved with reading
      obtain ⟨channel, fits, rfl⟩ := Option.map_eq_some_iff.mp moved
      rw [sendCommand_eq fits]
      have turn := inv.turn session
      rw [found] at turn
      refine inv.advance (inv.present found ?_) ?_ (turn.close reading session)
      · rw [reading]
        exact TaskPhase.noConfusion
      · intro sent member
        rw [List.mem_singleton.mp member]
        rfl
  | process ord =>
      cases queue : s.channel with
      | nil => simp [Service.next, queue] at moved
      | cons cmd rest =>
          simp only [Service.next, queue, Option.some.injEq] at moved
          subst moved
          apply inv.handled queue
          intro id new
          exact fresh cmd (by rw [queue]; rfl) id new
  | server step => exact inv.background moved

theorem orderly_reachable (reachable : Service.Reachable cfg stored s) : Orderly s := by
  refine reachable.invariant ?_ ?_
  · intro s first
    subst first
    exact orderly_start cfg stored
  · intro s step after inv fresh moved
    exact inv.next fresh moved

/-! ## The lifecycle -/

theorem Orderly.lifecycle (inv : Orderly s) : s.Lifecycle := by
  have books := inv.booked
  refine
    { oneActor := fun session id other mine also live live' => ?_
      sessionHandles := books.sessionHandles
      decisionHandles := books.decisionHandles
      anchors := books.anchors
      owners := books.owners
      despawned := fun session gone id mine live => ?_
      aborted := fun session gone dl member mine => ?_
      silent := fun session gone cmd member same => ?_ }
  · have first := books.owned session id mine live
    rw [books.owned session other also live'] at first
    exact (Option.some.inj first).symm
  · have owned := books.owned session id mine live
    exact inv.unregistered gone ((books.owners session).mp (HashMap.mem_of_lookup owned))
  · have held := books.started session dl member mine
    exact inv.unregistered gone ((books.decisionHandles session).mp (HashMap.mem_of_lookup held))
  · have pending : cmd ∈ pendingOf s.channel session := List.mem_filter.mpr ⟨member, decide_eq_true same⟩
    rw [(inv.gone session gone).1] at pending
    cases pending

theorem refusals (s : Service) : s.RefusalsChangeNothing := by
  constructor
  · intro session task name personality backstory model position role faction after found owns moved
    simp only [Service.next, found, Option.bind_some, ConnectionTask.handleClientCommand, owns, if_true,
      sendCommand, Option.map_some] at moved
    split_ifs at moved
    exact (Option.some.inj moved).symm
  · intro ord session name personality backstory model position role faction rest after queue long moved
    have refused : ∃ e, s.server.process ord
        (.CreateActor session name personality backstory model position role faction) = (some (.error e), s.server) := by
      simp only [Server.process, Server.createActor]
      split_ifs
      · exact ⟨_, rfl⟩
      · exact ⟨_, rfl⟩
      · exact ⟨_, rfl⟩
      all_goals omega
    obtain ⟨e, refused⟩ := refused
    simp only [Service.next, queue, Option.some.injEq] at moved
    subst moved
    simp only [Service.handled, refused, Service.deliver]
    cases s.tasks (EngineCommand.session (.CreateActor session name personality backstory model position role faction))
    all_goals exact ⟨rfl, rfl, rfl⟩

theorem sessions_keep_their_lifecycle (cfg : WorldConfig) (stored : Except SnapshotError (Option WorldSnapshot))
    (s : Service) (reachable : Service.Reachable cfg stored s) : s.Lifecycle ∧ s.RefusalsChangeNothing :=
  ⟨(orderly_reachable reachable).lifecycle, refusals s⟩

-- a session that creates, is refused a second actor, starts over with another one, and leaves
def visit : List ServiceStep :=
  let create : ServiceStep := .receive ⟨1⟩ (.CreateActor "Ada" "curious" "A visitor" .Mock ⟨5, 5⟩ none none)
  [.accept, create, .process .stored, .resume ⟨1⟩, create, .receive ⟨1⟩ (.MoveActor ⟨7⟩ ⟨50, 5⟩),
    .receive ⟨1⟩ (.DestroyActor ⟨7⟩), create, .process .stored, .process .stored, .process .stored, .resume ⟨1⟩,
    .close ⟨1⟩, .process .stored]

def visited : Service := .after .default (.ok none) visit

theorem reachable_after {steps : List ServiceStep}
    (respects : Transition.Respects Service.FreshIds Service.next (.start cfg stored) steps)
    (runs : (Transition.run Service.next (.start cfg stored) steps).isSome) :
    Service.Reachable cfg stored (.after cfg stored steps) :=
  Transition.Reachable.getD_run (.start rfl) respects runs

theorem visited_reachable : Service.Reachable .default (.ok none) visited :=
  reachable_after (by decide +kernel) (by decide +kernel)

theorem sessions_keep_their_lifecycle_visit :
    (visited.Lifecycle ∧ visited.RefusalsChangeNothing) ∧
      visited.disconnected = [⟨1⟩] ∧ visited.spawned = [(⟨1⟩, ⟨22⟩), (⟨1⟩, ⟨21⟩)] := by
  refine ⟨sessions_keep_their_lifecycle .default (.ok none) visited visited_reachable, ?_, ?_⟩
  · decide +kernel
  · decide +kernel

end LiveWorld.Proof.Sessions

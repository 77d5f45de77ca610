import LiveWorld.Lib.Padding
import LiveWorld.Proof.Engine.Obedience
import LiveWorld.Proof.Minds.Accounts
import LiveWorld.Proof.Responses

/-!
# Nothing happens without a cause

What an actor does in a tick it was ordered to do since the last one, and an order comes through a call or from a loop.
-/

namespace LiveWorld.Proof.Minds
open HashTable Spec Society Proof.Engine Proof.Runtime Proof.Verdicts
variable {ι β κ : Type} [DecidableEq ι] [DecidableEq β] [DecidableEq κ] {wiring : Wiring ι β κ} {ahash : Hasher}
  {setup : AgentSetup ι β κ} {cfg : WorldConfig} {s s' : Society ι β κ} {d : Docket} {step : AgentStep ι}

/-! ## The docket -/

theorem mem_ordersTo {id : ActorId} {order : ActorMessage} {orders : List (ActorId × ActorMessage)} :
    order ∈ ordersTo id orders ↔ (id, order) ∈ orders := by
  simp [ordersTo]

/-- What is done in a tick has been ordered since the last one. -/
theorem reported_recent (reachable : DocketReachable cfg d) {call : EngineCall} {effect : ActorEffect} {order : ActorMessage}
    (reported : effect ∈ Chronicle.reported d.chronicle.world.engine call) (ordered : orderOf effect = some order) :
    (owner effect, order) ∈ d.recent := by
  cases call with
  | tick ord clock =>
      obtain ⟨chronicle, -, record⟩ := orders_on_record reachable
      obtain ⟨governs, -⟩ := hearing.reachable chronicle
      have wired := governs.wired
      have tick := tick_spec wired ord (d.chronicle.world.engine.tickCount + 1)
      rw [Chronicle.reported, tick.effects, List.mem_flatMap] at reported
      obtain ⟨⟨id, actor⟩, listed, done⟩ := reported
      have found := HashMap.mem_entries_iff.mp (ord.mem_visit.mp listed)
      have mine : owner effect = id :=
        (drainInbox_own (actor.tick _) _ effect done).trans (wired.keyed id actor found).1
      have lively : .Shutdown ∉ d.chronicle.world.engine.runtime.inboxes.pending actor.inbox :=
        fun member => governs.mail id actor found _ member rfl
      have orders := (drainInbox_lively (actor.tick (d.chronicle.world.engine.tickCount + 1)) lively).1
      rw [mine, ← mem_ordersTo, ← record.waiting id actor found, ← orders]
      exact List.mem_filterMap.mpr ⟨effect, done, ordered⟩
  | _ => cases reported

theorem decision_civil {loop : AgentDecisionLoop} {ord : Order} {snapshot : Snapshot} {text : String} {msg : ActorMessage}
    (decided : decision loop ord snapshot text = some msg) : Civil msg := by
  unfold decision AgentDecisionLoop.message at decided
  split at decided
  · cases decided
    trivial
  · cases decided
  · cases decided
    trivial
  · obtain ⟨target, -, rfl⟩ := Option.map_eq_some_iff.mp decided
    trivial
  · cases decided

/-! ## One step -/

theorem Turn.same {loop loop' : AgentDecisionLoop} {thought : Option Thought} (turn : Turn loop thought loop') :
    loop'.spec = loop.spec ∧ loop'.handle = loop.handle := by
  cases turn <;> exact ⟨rfl, rfl⟩

omit [DecidableEq ι] [DecidableEq β] [DecidableEq κ] in
theorem loops_same {agent : ι} {thought : Option Thought}
    (others : ∀ other, other ≠ agent → s'.agents.loops other = s.agents.loops other)
    (mine : Turn (s.agents.loops agent) thought (s'.agents.loops agent)) (other : ι) :
    (s'.agents.loops other).spec = (s.agents.loops other).spec ∧
      (s'.agents.loops other).handle = (s.agents.loops other).handle := by
  by_cases here : other = agent
  · subst here
    exact mine.same
  · rw [others other here]
    exact ⟨rfl, rfl⟩

/-- The docket after a loop has thought: it stands, or takes what the loop has decided on for what it has just heard. -/
theorem docket_think {ord : Order} {snapshot : Snapshot} (moved : s.next wiring ahash (.think step ord snapshot) = some s') :
    s'.commanded = s.commanded ∧ (∀ hearing ∈ s.hearings, hearing ∈ s'.hearings) ∧
      (s'.docket = s.docket ∨ ∃ text msg, thought wiring s.agents step = some (.heard text) ∧
        ⟨step.agent, text, ord, snapshot⟩ ∈ s'.hearings ∧
        decision (s'.agents.loops step.agent) ord snapshot text = some msg ∧
        s'.docket = s.docket.next (.send (s'.agents.loops step.agent).handle msg)) := by
  obtain ⟨agents, advanced, same⟩ := Option.map_eq_some_iff.mp moved
  cases thinks : thought wiring s.agents step with
  | none =>
      simp only [thinks] at same
      subst same
      exact ⟨rfl, fun _ given => given, .inl rfl⟩
  | some thought =>
      simp only [thinks] at same
      subst same
      cases thought with
      | heard text =>
          refine ⟨rfl, fun _ given => List.mem_append_left _ given, ?_⟩
          simp only [Society.act, Society.remember]
          cases decided : decision (agents.loops step.agent) ord snapshot text with
          | none => exact .inl rfl
          | some msg => exact .inr ⟨text, msg, rfl, List.mem_append_right _ (List.mem_singleton.mpr rfl), decided, rfl⟩
      | _ => exact ⟨rfl, fun _ given => given, .inl rfl⟩

omit [DecidableEq ι] [DecidableEq β] [DecidableEq κ] in
theorem caused_mono {id : ActorId} {order : ActorMessage} (caused : Caused s id order)
    (commanded : ∀ other ∈ s.commanded, other ∈ s'.commanded) (hearings : ∀ hearing ∈ s.hearings, hearing ∈ s'.hearings)
    (loops : ∀ agent, (s'.agents.loops agent).spec = (s.agents.loops agent).spec ∧
      (s'.agents.loops agent).handle = (s.agents.loops agent).handle) : Caused s' id order := by
  rcases caused with given | ⟨hearing, heard, mine, decided⟩
  · exact .inl (commanded _ given)
  · refine .inr ⟨hearing, hearings _ heard, ?_, ?_⟩
    · rw [(loops hearing.agent).2]
      exact mine
    · unfold decision at decided ⊢
      rw [(loops hearing.agent).1]
      exact decided

theorem orders_next (d : Docket) (call : EngineCall) :
    (d.next call).settled ++ (d.next call).recent =
      d.settled ++ d.recent ++ (Docket.accepted d.chronicle.world.engine call).toList := by
  simp only [Docket.next]
  cases timeless : call.isTick with
  | false => simp
  | true =>
      cases call with
      | tick => simp [Docket.accepted]
      | _ => cases timeless

/-! ## Whole runs -/

structure Traced (cfg : WorldConfig) (s : Society ι β κ) : Prop where
  docket : DocketReachable cfg s.docket
  orders : ∀ order ∈ s.docket.settled ++ s.docket.recent, Caused s order.1 order.2
  effects : ∀ effect ∈ s.docket.chronicle.log, ∀ order, orderOf effect = some order → Caused s (owner effect) order

omit [DecidableEq ι] [DecidableEq β] [DecidableEq κ] in
/-- The docket takes a call whose order, if it is accepted, has a cause. -/
theorem Traced.take (traced : Traced cfg s) {call : EngineCall} (allowed : s.docket.Allowed call)
    (taken : s'.docket = s.docket.next call) (kept : ∀ id order, Caused s id order → Caused s' id order)
    (fresh : ∀ order ∈ Docket.accepted s.docket.chronicle.world.engine call, Caused s' order.1 order.2) : Traced cfg s' := by
  refine ⟨?_, fun order member => ?_, fun effect member order ordered => ?_⟩
  · rw [taken]
    exact traced.docket.step allowed rfl
  · rw [taken, orders_next] at member
    rcases List.mem_append.mp member with old | new
    · exact kept _ _ (traced.orders order old)
    · exact fresh order (Option.mem_toList.mp new)
  · rw [taken] at member
    rcases List.mem_append.mp member with old | new
    · exact kept _ _ (traced.effects effect old order ordered)
    · have recent := reported_recent traced.docket new ordered
      exact kept _ _ (traced.orders _ (List.mem_append_right _ recent))

omit [DecidableEq ι] [DecidableEq β] [DecidableEq κ] in
theorem Traced.stand (traced : Traced cfg s) (stands : s'.docket = s.docket)
    (kept : ∀ id order, Caused s id order → Caused s' id order) : Traced cfg s' := by
  refine ⟨stands ▸ traced.docket, fun order member => ?_, fun effect member order ordered => ?_⟩
  · exact kept _ _ (traced.orders order (stands ▸ member))
  · exact kept _ _ (traced.effects effect (stands ▸ member) order ordered)

theorem Traced.think (traced : Traced cfg s) {ord : Order} {snapshot : Snapshot}
    (allowed : s.Allowed (.think step ord snapshot)) (moved : s.next wiring ahash (.think step ord snapshot) = some s') :
    Traced cfg s' := by
  obtain ⟨others, mine⟩ := turn (next_think moved).1
  have loops := loops_same others mine
  obtain ⟨commanded, hearings, docket⟩ := docket_think moved
  have kept (id : ActorId) (order : ActorMessage) (caused : Caused s id order) : Caused s' id order := by
    refine caused_mono caused ?_ hearings loops
    rw [commanded]
    exact fun _ given => given
  rcases docket with stands | ⟨text, msg, -, heard, decided, taken⟩
  · exact traced.stand stands kept
  · refine traced.take ⟨⟨?_, ?_⟩, ?_⟩ taken kept ?_
    · exact fun spec spawned => absurd spawned (Option.not_mem_none spec)
    · rintro other ⟨⟩
      exact decision_civil decided
    · rintro handle ⟨⟩
      rw [(loops step.agent).2]
      exact allowed.1
    · intro order accepted
      simp only [Docket.accepted] at accepted
      split_ifs at accepted
      · cases accepted
        exact .inr ⟨⟨step.agent, text, ord, snapshot⟩, heard, rfl, decided⟩
      · cases accepted

theorem traced_reachable (reachable : Society.Reachable wiring ahash setup cfg Allowed s) : Traced cfg s := by
  induction reachable with
  | start first =>
      subst first
      exact ⟨.start rfl, fun order member => (List.not_mem_nil member).elim, fun effect member => (List.not_mem_nil member).elim⟩
  | @step s s' move before allowed moved ih =>
      cases move with
      | think step ord snapshot => exact ih.think allowed moved
      | abort agent =>
          obtain ⟨others, calling, mine, same⟩ := next_abort moved
          have loops := loops_same others mine
          subst same
          exact ih.stand rfl fun id order caused =>
            caused_mono caused (fun _ given => given) (fun _ given => given) loops
      | call call =>
          cases moved
          refine ih.take allowed rfl (fun id order caused => ?_) fun order accepted => .inl ?_
          · exact caused_mono caused (fun _ given => List.mem_append_left _ given) (fun _ given => given) fun _ => ⟨rfl, rfl⟩
          · exact List.mem_append_right _ (Option.mem_toList.mpr accepted)

/-! ## Where an actor stands -/

structure Placed (own : List ActorEffect) (actor : Actor) : Prop where
  loyal : actor.state.faction = actor.spec.faction
  place : actor.state.position = actor.spec.position ∨ ∃ mover, .Move mover actor.state.position ∈ own

theorem placed_handle {own : List ActorEffect} {actor : Actor} (msg : ActorMessage) (placed : Placed own actor) :
    Placed (own ++ (actor.handleMessage msg).2) (actor.handleMessage msg).1 := by
  have stays (more : List ActorEffect) :
      actor.state.position = actor.spec.position ∨ ∃ mover, .Move mover actor.state.position ∈ own ++ more :=
    placed.place.imp_right fun ⟨mover, reported⟩ => ⟨mover, List.mem_append_left more reported⟩
  cases msg with
  | TakeDamage amount fromName =>
      simp only [Actor.handleMessage, Actor.takeDamage]
      split_ifs
      · exact ⟨placed.loyal, .inl rfl⟩
      · exact ⟨placed.loyal, stays _⟩
  | GainXp amount =>
      simp only [Actor.handleMessage, Actor.gainXp]
      split_ifs
      · exact ⟨placed.loyal, stays _⟩
      · exact ⟨placed.loyal, stays _⟩
  | Move | Speak | Interact | Shutdown => exact ⟨placed.loyal, stays _⟩

theorem placing : Regime (fun _ _ => True) Placed fun _ => True where
  born _ _ := ⟨rfl, .inl rfl⟩
  ticked _ _ _ given := ⟨given.loyal, given.place⟩
  handled _ _ msg _ := placed_handle msg
  moved _ _ mover _ _ reported given := ⟨given.loyal, .inr ⟨mover, reported⟩⟩
  states _ _ _ := trivial
  loyal _ _ given := given.loyal
  civil _ _ _ := trivial
  blows _ _ _ _ _ _ _ := trivial
  rewards _ _ _ _ _ _ _ := trivial

theorem nothing_without_cause (wiring : Wiring ι β κ) (ahash : Hasher) (setup : AgentSetup ι β κ) (cfg : WorldConfig)
    (s : Society ι β κ) (reachable : Society.Reachable wiring ahash setup cfg Allowed s) :
    (∀ effect ∈ s.docket.chronicle.log, ∀ order, orderOf effect = some order → Caused s (owner effect) order) ∧
      ∀ id actor, s.docket.chronicle.world.engine.runtime.actors.lookup id = some actor →
        (actor.state.position = actor.spec.position ∨ Caused s id (.Move actor.state.position)) ∧
          ∀ text ∈ actor.state.lastUtterance, Caused s id (.Speak text) := by
  have traced := traced_reachable reachable
  obtain ⟨chronicle, -, -⟩ := orders_on_record traced.docket
  refine ⟨traced.effects, fun id actor found => ⟨?_, fun text spoken => ?_⟩⟩
  · have placed := (placing.reachable chronicle).1.holds id actor found
    refine placed.place.imp_right fun ⟨mover, reported⟩ => ?_
    obtain ⟨logged, mine⟩ := List.mem_filter.mp reported
    rw [← of_decide_eq_true mine]
    exact traced.effects _ logged _ rfl
  · have heard := (hearing.reachable chronicle).1.holds id actor found
    rw [heard.utterance] at spoken
    obtain ⟨effect, reported, spoke⟩ := List.mem_filterMap.mp (List.mem_of_getLast? spoken)
    obtain ⟨logged, mine⟩ := List.mem_filter.mp reported
    cases effect with
    | Speak speaker words =>
        cases spoke
        rw [← of_decide_eq_true mine]
        exact traced.effects _ logged _ rfl
    | _ => cases spoke

theorem scout_moves_for_what_it_heard :
    ∃ actor, scouted.docket.chronicle.world.engine.runtime.actors.lookup ⟨1⟩ = some actor ∧
      actor.state.position = ⟨2000, 500⟩ ∧ Caused scouted ⟨1⟩ (.Move ⟨2000, 500⟩) := by
  have moved : (scouted.docket.chronicle.world.engine.runtime.actors.lookup ⟨1⟩).map
      (fun actor => (actor.state.position, actor.spec.position)) = some (⟨2000, 500⟩, ⟨100, 500⟩) := by
    decide +kernel
  obtain ⟨actor, found, places⟩ := Option.map_eq_some_iff.mp moved
  obtain ⟨now, born⟩ := Prod.mk.inj places
  have reachable : Society.Reachable shared lengths pod .default Allowed scouted := scouted_reachable (by decide +kernel)
  obtain ⟨place, -⟩ := (nothing_without_cause shared lengths pod .default scouted reachable).2 ⟨1⟩ actor found
  rw [now, born] at place
  refine ⟨actor, found, now, place.resolve_left ?_⟩
  decide

end LiveWorld.Proof.Minds

import LiveWorld.Proof.Engine.Chronicle

/-!
# What attacks account for

An attack sends at most one message of a kind to an actor. So what an actor has spent of such messages, together with
those that wait in its inbox, is covered by the attacks in the log.
-/

namespace LiveWorld.Proof.Engine
open HashTable Spec Proof.Runtime
variable {M : ActorSpec → ActorMessage → Prop} {Q : List ActorEffect → Actor → Prop} {P : ActorState → Prop}
  {kind : ActorMessage → Bool} {cause : ActorId → ActorEffect → Bool} {spent : List ActorEffect → Actor → Nat}
  {worth : Nat} {c : Chronicle} {engine after : WorldEngine} {own log : List ActorEffect}

/-- Every message of the kind is worth `worth`, and has a cause of its own. -/
structure Priced (M : ActorSpec → ActorMessage → Prop) (kind : ActorMessage → Bool)
    (cause : ActorId → ActorEffect → Bool) (spent : List ActorEffect → Actor → Nat) (worth : Nat) : Prop where
  born : ∀ rt spec, spent [] (newborn rt spec) = 0
  ticked : ∀ own actor tickNum, spent own (actor.tick tickNum) = spent own actor
  moved : ∀ own actor dest cell, spent own (actor.applyMove dest cell) = spent own actor
  handled : ∀ own actor msg, M actor.spec msg →
    spent (own ++ (actor.handleMessage msg).2) (actor.handleMessage msg).1 ≤
      spent own actor + if kind msg then worth else 0
  civil : ∀ msg, Civil msg → kind msg = false
  struck : ∀ source target amount name, kind (.TakeDamage amount name) = true →
    cause target (.Interact source target "ATTACK") = true
  rewarded : ∀ source target, kind (.GainXp 30) = true → cause source (.Interact source target "ATTACK") = true
  one : ∀ amount name, kind (.TakeDamage amount name) = true → kind (.GainXp 30) = false

def Balanced (kind : ActorMessage → Bool) (cause : ActorId → ActorEffect → Bool)
    (spent : List ActorEffect → Actor → Nat) (worth : Nat) (log : List ActorEffect) (engine : WorldEngine) : Prop :=
  ∀ id actor, engine.runtime.actors.lookup id = some actor →
    spent (effectsFrom id log) actor + worth * (engine.runtime.inboxes.pending actor.inbox).countP kind ≤
      worth * log.countP (cause id)

/-! ## One actor -/

theorem drainInbox_spent (priced : Priced M kind cause spent worth) (own : List ActorEffect)
    {messages : List ActorMessage} {actor : Actor} (mail : ∀ msg ∈ messages, M actor.spec msg) :
    spent (own ++ (actor.drainInbox messages).2.1) (actor.drainInbox messages).1 +
        worth * (actor.drainInbox messages).2.2.countP kind ≤
      spent own actor + worth * messages.countP kind := by
  induction messages generalizing own actor with
  | nil => simp [Actor.drainInbox]
  | cons msg rest ih =>
      have now := priced.handled own actor msg (mail msg List.mem_cons_self)
      have count : worth * (msg :: rest).countP kind = (worth * rest.countP kind) + if kind msg then worth else 0 := by
        rw [List.countP_cons, Nat.mul_add]
        split_ifs <;> simp
      simp only [Actor.drainInbox]
      split_ifs
      · rw [count]
        change spent (own ++ (actor.handleMessage msg).2) (actor.handleMessage msg).1 + worth * rest.countP kind ≤ _
        omega
      · have later : ∀ other ∈ rest, M (actor.handleMessage msg).1.spec other := by
          intro other member
          rw [(handleMessage_same actor msg).1.spec]
          exact mail other (List.mem_cons_of_mem _ member)
        have drained := ih (own ++ (actor.handleMessage msg).2) later
        rw [List.append_assoc] at drained
        refine drained.trans ?_
        rw [count]
        omega

theorem relocate_spent (priced : Priced M kind cause spent worth) (cellSize : Rat) (actor : Actor)
    (effects : List ActorEffect) : spent own (relocate cellSize actor effects) = spent own actor := by
  induction effects generalizing actor with
  | nil => rfl
  | cons effect rest ih =>
      cases effect with
      | Move mover dest => exact (ih _).trans (priced.moved own actor dest _)
      | _ => exact ih actor

theorem ticked_spent (priced : Priced M kind cause spent worth) (own : List ActorEffect) {rt : ActorRuntime}
    {actor : Actor} (mail : ∀ msg ∈ rt.inboxes.pending actor.inbox, M actor.spec msg) (tickNum : UInt64) :
    spent (own ++ effectsOf rt tickNum actor) (ticked rt tickNum actor) + worth * (leftOf rt tickNum actor).countP kind ≤
      spent own actor + worth * (rt.inboxes.pending actor.inbox).countP kind := by
  have mail' : ∀ msg ∈ rt.inboxes.pending actor.inbox, M (actor.tick tickNum).spec msg := mail
  have drained := drainInbox_spent priced own mail'
  rw [priced.ticked own actor tickNum] at drained
  rw [ticked, afterTick, relocate_spent priced]
  exact drained

/-! ## The effects of a tick -/

theorem count_sendToActor (kind : ActorMessage → Bool) (wired : Wired engine.runtime) {id : ActorId} {actor : Actor}
    (found : engine.runtime.actors.lookup id = some actor) (target : ActorId) (msg : ActorMessage) :
    ((engine.sendToActor target msg).2.runtime.inboxes.pending actor.inbox).countP kind ≤
      (engine.runtime.inboxes.pending actor.inbox).countP kind + if target = id ∧ kind msg = true then 1 else 0 := by
  rw [pending_sendToActor wired found]
  split_ifs with reached counted counted
  · rw [List.countP_append, List.countP_singleton, if_pos counted.2]
  · rw [List.countP_append, List.countP_singleton, if_neg fun yes => counted ⟨reached.1, yes⟩]
  · exact Nat.le_add_right _ _
  · exact Nat.le_add_right _ _

theorem count_resolveCombat (priced : Priced M kind cause spent worth) (wired : Wired engine.runtime)
    {id : ActorId} {actor : Actor} (found : engine.runtime.actors.lookup id = some actor) (source target : ActorId) :
    ((engine.resolveCombat source target).runtime.inboxes.pending actor.inbox).countP kind ≤
      (engine.runtime.inboxes.pending actor.inbox).countP kind +
        if cause id (.Interact source target "ATTACK") = true then 1 else 0 := by
  rcases idle_or_hostile engine source target with idle | ⟨atk, victim, attacker, attacked, hostile⟩
  · rw [idle]
    exact Nat.le_add_right _ _
  · rw [resolveCombat_eq attacker attacked hostile]
    have effected := effected_sendToActor engine target (blow atk victim)
    have found' : (engine.sendToActor target (blow atk victim)).2.runtime.actors.lookup id = some actor := by
      rw [effected.actors]
      exact found
    have first := count_sendToActor kind wired found target (blow atk victim)
    have second := count_sendToActor kind (effected.wired wired) found' source (.GainXp 30)
    refine second.trans ?_
    by_cases caused : cause id (.Interact source target "ATTACK") = true
    · rw [if_pos caused]
      by_cases struck : kind (blow atk victim) = true
      · have unpaid : ¬(source = id ∧ kind (.GainXp 30) = true) := by
          rw [priced.one _ _ struck]
          exact fun both => Bool.false_ne_true both.2
        rw [if_neg unpaid]
        refine first.trans (Nat.add_le_add_left ?_ _)
        split_ifs <;> omega
      · rw [if_neg fun both => struck both.2] at first
        refine Nat.add_le_add first ?_
        split_ifs <;> omega
    · have notStruck : ¬(target = id ∧ kind (blow atk victim) = true) := by
        rintro ⟨rfl, struck⟩
        exact caused (priced.struck source target _ _ struck)
      have notRewarded : ¬(source = id ∧ kind (.GainXp 30) = true) := by
        rintro ⟨rfl, rewarded⟩
        exact caused (priced.rewarded source target rewarded)
      rw [if_neg notStruck] at first
      rw [if_neg notRewarded, if_neg caused]
      exact first

theorem count_effects (priced : Priced M kind cause spent worth) (wired : Wired engine.runtime) {id : ActorId}
    {actor : Actor} (found : engine.runtime.actors.lookup id = some actor) (ord : Order) (effects : List ActorEffect) :
    ((effects.foldl (WorldEngine.processEffect ord) engine).runtime.inboxes.pending actor.inbox).countP kind ≤
      (engine.runtime.inboxes.pending actor.inbox).countP kind + effects.countP (cause id) := by
  induction effects generalizing engine with
  | nil => exact Nat.le_refl _
  | cons effect rest ih =>
      have effected := effected_processEffect engine ord effect
      have one : ((WorldEngine.processEffect ord engine effect).runtime.inboxes.pending actor.inbox).countP kind ≤
          (engine.runtime.inboxes.pending actor.inbox).countP kind + if cause id effect = true then 1 else 0 := by
        by_cases attacks : Attacks effect
        · cases effect with
          | Interact source target action =>
              obtain rfl : action = "ATTACK" := attacks
              rw [WorldEngine.processEffect, if_pos rfl]
              exact count_resolveCombat priced wired found source target
          | _ => exact attacks.elim
        · rw [processEffect_runtime attacks]
          exact Nat.le_add_right _ _
      have rest_ := ih (effected.wired wired) (effected.actors ▸ found)
      rw [List.foldl_cons, List.countP_cons]
      omega

/-! ## Calls -/

theorem Balanced.tick (balanced : Balanced kind cause spent worth log engine)
    (priced : Priced M kind cause spent worth) (governs : Governs M Q log engine) (ord : Order)
    (clock : SessionId → UInt64) :
    Balanced kind cause spent worth (log ++ (engine.runtime.tick ord (engine.tickCount + 1)).1) (engine.tick ord clock) := by
  intro id actor found
  have tick := tick_spec governs.wired ord (engine.tickCount + 1)
  have drained : (afterDrain engine ord).runtime.actors.lookup id = some actor := by
    rw [(finished_tick engine ord clock).runtime, (effected_applyEffects engine ord).actors] at found
    exact found
  have added := count_effects priced tick.wired drained ord (engine.runtime.tick ord (engine.tickCount + 1)).1
  replace drained := (tick.lookup id).symm.trans drained
  rw [Option.filter_eq_some_iff, Option.map_eq_some_iff] at drained
  obtain ⟨⟨old, before, rfl⟩, -⟩ := drained
  have same := (afterTick_same engine.runtime.grid.cellSize (engine.tickCount + 1)
    (engine.runtime.inboxes.pending old.inbox) old).inbox
  have spending := ticked_spent priced (effectsFrom id log) (governs.mail id old before) (engine.tickCount + 1)
  have left := tick.left id old before
  have start := balanced id old before
  have inbox : (ticked engine.runtime (engine.tickCount + 1) old).inbox = old.inbox := same
  rw [inbox] at added ⊢
  rw [(finished_tick engine ord clock).runtime, effectsFrom_append, effectsFrom_tick governs.wired, before,
    List.countP_append, Nat.mul_add]
  have more := Nat.mul_le_mul_left worth (added.trans (Nat.add_le_add_right (congrArg (List.countP kind) left).le _))
  rw [Nat.mul_add] at more
  refine (Nat.add_le_add_left more _).trans ?_
  rw [← Nat.add_assoc]
  exact Nat.add_le_add_right (spending.trans start) _

theorem Balanced.fewer (balanced : Balanced kind cause spent worth log engine)
    (actors : ∀ id actor, after.runtime.actors.lookup id = some actor → engine.runtime.actors.lookup id = some actor)
    (mail : ∀ id actor, engine.runtime.actors.lookup id = some actor →
      (after.runtime.inboxes.pending actor.inbox).countP kind ≤
        (engine.runtime.inboxes.pending actor.inbox).countP kind) : Balanced kind cause spent worth log after := by
  intro id actor found
  have before := actors id actor found
  have less := Nat.mul_le_mul_left worth (mail id actor before)
  exact (Nat.add_le_add_left less _).trans (balanced id actor before)

theorem Balanced.congr (balanced : Balanced kind cause spent worth log engine) (same : after.runtime = engine.runtime) :
    Balanced kind cause spent worth log after := by
  unfold Balanced
  rw [same]
  exact balanced

theorem Balanced.despawn (balanced : Balanced kind cause spent worth log engine) (gone : ActorId) :
    Balanced kind cause spent worth log { engine with runtime := (engine.runtime.despawnActor gone).2 } := by
  apply balanced.fewer
  · intro id actor found
    rw [despawnActor_lookup] at found
    split_ifs at found
    exact found
  · intro id actor found
    rw [despawnActor_inboxes]

theorem Balanced.removeSession (balanced : Balanced kind cause spent worth log engine) (session : SessionId)
    (despawn : Bool) : Balanced kind cause spent worth log (engine.removeSession session despawn) := by
  rcases removeSession_runtime engine session despawn with same | ⟨id, same⟩
  · exact balanced.congr same
  · exact (balanced.despawn id).congr same

theorem Balanced.spawn (balanced : Balanced kind cause spent worth log engine)
    (priced : Priced M kind cause spent worth) (wired : Wired engine.runtime) {spec : ActorSpec}
    (silent : effectsFrom spec.id log = []) :
    Balanced kind cause spent worth log { engine with runtime := (engine.runtime.spawnActor spec).2 } := by
  intro id actor found
  change _ + worth * (Function.update engine.runtime.inboxes.pending engine.runtime.inboxes.next [] actor.inbox).countP kind ≤ _
  rcases spawnActor_either found with ⟨rfl, rfl⟩ | ⟨-, old⟩
  · have mine : (newborn engine.runtime spec).inbox = engine.runtime.inboxes.next := rfl
    rw [silent, priced.born, mine, Function.update_self]
    exact Nat.zero_le _
  · rw [Function.update_of_ne (wired.allocated id actor old).ne]
    exact balanced id actor old

theorem Balanced.send (balanced : Balanced kind cause spent worth log engine) (handle : ActorHandle) {msg : ActorMessage}
    (other : kind msg = false) : Balanced kind cause spent worth log (engine.send handle msg).2 := by
  apply balanced.fewer
  · exact fun id actor found => found
  · intro id actor found
    have grown := pending_send handle engine.runtime.inboxes msg actor.inbox
    change ((handle.send engine.runtime.inboxes msg).2.pending actor.inbox).countP kind ≤ _
    rw [grown]
    split_ifs
    · rw [List.countP_append, List.countP_singleton, other]
      exact Nat.le_refl _
    · exact Nat.le_refl _

theorem Balanced.sendToActor (balanced : Balanced kind cause spent worth log engine) (id : ActorId) {msg : ActorMessage}
    (other : kind msg = false) : Balanced kind cause spent worth log (engine.sendToActor id msg).2 := by
  unfold WorldEngine.sendToActor
  cases engine.runtime.handle id with
  | some handle => exact balanced.send handle other
  | none => exact balanced

theorem Balanced.call (balanced : Balanced kind cause spent worth c.log c.world.engine)
    (priced : Priced M kind cause spent worth) (governs : Governs M Q c.log c.world.engine) (recorded : Recorded P c)
    {call : EngineCall} (allowed : c.Allowed call) :
    Balanced kind cause spent worth (c.next call).log (c.next call).world.engine := by
  have same : ∀ engine, Balanced kind cause spent worth c.log engine →
      Balanced kind cause spent worth (c.log ++ []) engine := by
    intro engine given
    rw [List.append_nil]
    exact given
  have silent : ∀ spec ∈ call.spawned, effectsFrom spec.id c.log = [] :=
    fun spec spawned => recorded.silent (allowed.1 spec spawned)
  cases call with
  | spawnActorForSession ord spec session =>
      exact same _ ((balanced.spawn priced governs.wired (silent spec rfl)).congr rfl)
  | spawnActorStandalone spec => exact same _ (balanced.spawn priced governs.wired (silent spec rfl))
  | removeSession session despawn => exact same _ (balanced.removeSession session despawn)
  | despawnActor id => exact same _ ((balanced.despawn id).congr rfl)
  | send handle msg => exact same _ (balanced.send handle (priced.civil msg (allowed.2 msg rfl)))
  | applyDirective directive =>
      cases directive with
      | ForceMove id dest => exact same _ (balanced.sendToActor id (priced.civil _ (allowed.2 _ rfl)))
      | _ => exact same _ (balanced.congr rfl)
  | broadcastWorldEvent message => exact same _ (balanced.congr rfl)
  | drainSession session => exact same _ (balanced.congr (drainSession_runtime c.world.engine session))
  | tick ord clock => exact balanced.tick priced governs ord clock

theorem Priced.reachable {cfg : WorldConfig} (priced : Priced M kind cause spent worth) (regime : Regime M Q P)
    (reachable : ChronicleReachable cfg c) : Balanced kind cause spent worth c.log c.world.engine := by
  induction reachable with
  | start first =>
      subst first
      exact fun id actor found => absurd (HashMap.mem_of_lookup found) (AList.notMem_empty id)
  | step before allowed moved ih =>
      cases moved
      obtain ⟨governs, recorded⟩ := regime.reachable before
      exact ih.call priced governs recorded allowed

theorem countP_next (c : Chronicle) (call : EngineCall) (counts : ActorEffect → Bool) :
    c.log.countP counts ≤ (c.next call).log.countP counts := by
  rw [Chronicle.next, List.countP_append]
  exact Nat.le_add_right _ _

/-- What follows from the reports alone holds of those who are gone, too. -/
theorem Priced.reports {cfg : WorldConfig} {told : List ActorEffect → Nat}
    (priced : Priced M kind cause (fun own _ => told own) worth) (regime : Regime M Q P) (nothing : told [] = 0)
    (reachable : ChronicleReachable cfg c) (id : ActorId) :
    told (effectsFrom id c.log) ≤ worth * c.log.countP (cause id) := by
  induction reachable with
  | start first =>
      subst first
      exact nothing.le.trans (Nat.zero_le _)
  | @step s _ call before allowed moved ih =>
      cases moved
      have grows := Nat.mul_le_mul_left worth (countP_next s call (cause id))
      obtain ⟨governs, -⟩ := regime.reachable before
      rcases effectsFrom_next governs.wired call id with same | ⟨actor, tickNum, found, same⟩
      · rw [same]
        exact ih.trans grows
      · have balance := priced.reachable regime before id actor found
        have spending := ticked_spent priced (effectsFrom id s.log) (governs.mail id actor found) tickNum
        rw [same]
        exact ((Nat.le_add_right _ _).trans (spending.trans balance)).trans grows

end LiveWorld.Proof.Engine

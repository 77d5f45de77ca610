import LiveWorld.Proof.Runtime.Bookkeeping
import LiveWorld.Spec.EngineRun

/-!
# Processing the effects of a tick

The effects of a tick recentre interest windows, put combat messages into inboxes, and append events
to session queues. Everything else stays: `Effected` is that frame, and the only part of it that a
proof has to look at is where the windows end up.
-/

namespace LiveWorld.Proof.Engine
open HashTable Spec Proof.Runtime
variable {allowed : ActorMessage → Prop} {engine before middle after : WorldEngine} {ord : Order}

/-- The runtime but for its inboxes is the same; new messages are `allowed`, new frames are events. -/
structure Effected (allowed : ActorMessage → Prop) (before after : WorldEngine) : Prop where
  actors : after.runtime.actors = before.runtime.actors
  handles : after.runtime.handles = before.runtime.handles
  grid : after.runtime.grid = before.runtime.grid
  stats : after.runtime.stats = before.runtime.stats
  next : after.runtime.inboxes.next = before.runtime.inboxes.next
  grown : ∀ ref, ∃ new, after.runtime.inboxes.pending ref = before.runtime.inboxes.pending ref ++ new ∧
    ∀ msg ∈ new, allowed msg
  tickCount : after.tickCount = before.tickCount
  sessionToActor : after.sessionToActor = before.sessionToActor
  prevSnapshot : after.prevSnapshot = before.prevSnapshot
  removedThisTick : after.removedThisTick = before.removedThisTick
  radius : after.interest.radius = before.interest.radius
  anchors : ∀ session, (after.interest.sessionAnchors.lookup session).map Prod.fst =
    (before.interest.sessionAnchors.lookup session).map Prod.fst
  queues : ∀ session, ∃ messages : List String, after.sessionQueues.lookup session =
    (before.sessionQueues.lookup session).map (· ++ messages.map SessionFrame.WorldEvent)

theorem map_append_nil (queue : Option SessionQueue) :
    queue = queue.map (· ++ ([] : List String).map SessionFrame.WorldEvent) := by
  cases queue <;> simp

theorem grown_nil (messages : List ActorMessage) :
    ∃ new, messages = messages ++ new ∧ ∀ msg ∈ new, allowed msg :=
  ⟨[], (List.append_nil messages).symm, fun _ member => absurd member List.not_mem_nil⟩

theorem Effected.refl (engine : WorldEngine) : Effected allowed engine engine :=
  ⟨rfl, rfl, rfl, rfl, rfl, fun _ => grown_nil _, rfl, rfl, rfl, rfl, rfl, fun _ => rfl,
    fun _ => ⟨[], map_append_nil _⟩⟩

theorem Effected.trans (first : Effected allowed before middle) (second : Effected allowed middle after) :
    Effected allowed before after := by
  refine ⟨second.actors.trans first.actors, second.handles.trans first.handles, second.grid.trans first.grid,
    second.stats.trans first.stats, second.next.trans first.next, ?_, second.tickCount.trans first.tickCount,
    second.sessionToActor.trans first.sessionToActor, second.prevSnapshot.trans first.prevSnapshot,
    second.removedThisTick.trans first.removedThisTick, second.radius.trans first.radius,
    fun session => (second.anchors session).trans (first.anchors session), ?_⟩
  · intro ref
    obtain ⟨early, one, permitted⟩ := first.grown ref
    obtain ⟨late, two, permitted'⟩ := second.grown ref
    refine ⟨early ++ late, ?_, List.forall_mem_append.mpr ⟨permitted, permitted'⟩⟩
    rw [two, one, List.append_assoc]
  · intro session
    obtain ⟨early, one⟩ := first.queues session
    obtain ⟨late, two⟩ := second.queues session
    refine ⟨early ++ late, ?_⟩
    rw [two, one, Option.map_map]
    congr 1
    funext queue
    simp

theorem Effected.mono {wider : ActorMessage → Prop} (effected : Effected allowed before after)
    (weaken : ∀ msg, allowed msg → wider msg) : Effected wider before after :=
  { effected with
    grown := fun ref => by
      obtain ⟨new, appended, permitted⟩ := effected.grown ref
      exact ⟨new, appended, fun msg member => weaken msg (permitted msg member)⟩ }

theorem Effected.pending (effected : Effected allowed before after) (ref : QueueRef) (msg : ActorMessage)
    (member : msg ∈ after.runtime.inboxes.pending ref) :
    msg ∈ before.runtime.inboxes.pending ref ∨ allowed msg := by
  obtain ⟨new, appended, permitted⟩ := effected.grown ref
  rw [appended, List.mem_append] at member
  exact member.imp_right (permitted msg)

/-! ## The steps -/

theorem pending_send (handle : ActorHandle) (inboxes : Inboxes) (msg : ActorMessage) (ref : QueueRef) :
    (handle.send inboxes msg).2.pending ref =
      if ref = handle.sender ∧ (inboxes.pending ref).length < queueSize - 1 then inboxes.pending ref ++ [msg]
      else inboxes.pending ref := by
  have sent : (handle.send inboxes msg).2 =
      if (inboxes.pending handle.sender).length < queueSize - 1
      then inboxes.set handle.sender (inboxes.pending handle.sender ++ [msg]) else inboxes := by
    unfold ActorHandle.send
    simp only
    split_ifs <;> rfl
  rw [sent]
  by_cases mine : ref = handle.sender
  · subst mine
    simp only [true_and]
    split_ifs
    · exact Function.update_self _ _ _
    · rfl
  · simp only [mine, false_and, if_false]
    split_ifs
    · exact Function.update_of_ne mine _ _
    · rfl

theorem effected_send (engine : WorldEngine) (handle : ActorHandle) (msg : ActorMessage) :
    Effected (· = msg) engine (engine.send handle msg).2 := by
  refine ⟨rfl, rfl, rfl, rfl, send_next handle _ msg, fun ref => ?_, rfl, rfl, rfl, rfl, rfl, fun _ => rfl,
    fun _ => ⟨[], map_append_nil _⟩⟩
  change ∃ new, (handle.send engine.runtime.inboxes msg).2.pending ref = _ ∧ _
  rw [pending_send]
  split_ifs
  · exact ⟨[msg], rfl, fun other member => List.mem_singleton.mp member⟩
  · exact grown_nil _

theorem effected_sendToActor (engine : WorldEngine) (id : ActorId) (msg : ActorMessage) :
    Effected (· = msg) engine (engine.sendToActor id msg).2 := by
  unfold WorldEngine.sendToActor
  cases engine.runtime.handle id with
  | some handle => exact effected_send engine handle msg
  | none => exact .refl engine

theorem offerEvent_append (message : String) (queue : SessionQueue) :
    ∃ messages : List String, WorldEngine.offerEvent message queue = queue ++ messages.map SessionFrame.WorldEvent := by
  unfold WorldEngine.offerEvent
  split_ifs
  · exact ⟨[message], rfl⟩
  · exact ⟨[], (List.append_nil queue).symm⟩

theorem effected_broadcastWorldEvent (engine : WorldEngine) (message : String) :
    Effected allowed engine (engine.broadcastWorldEvent message) := by
  refine ⟨rfl, rfl, rfl, rfl, rfl, fun _ => grown_nil _, rfl, rfl, rfl, rfl, rfl, fun _ => rfl, fun session => ?_⟩
  simp only [WorldEngine.broadcastWorldEvent, HashMap.lookup_mapValues]
  cases engine.sessionQueues.lookup session with
  | none => exact ⟨[], rfl⟩
  | some queue =>
      obtain ⟨messages, offered⟩ := offerEvent_append message queue
      exact ⟨messages, congrArg some offered⟩

theorem effected_applyDirective (engine : WorldEngine) (directive : WorldDirective) :
    Effected (fun msg => (EngineCall.applyDirective directive).sent = some msg) engine
      (engine.applyDirective directive) := by
  cases directive with
  | ForceMove id dest =>
      refine (effected_sendToActor engine id (.Move dest)).mono ?_
      intro msg equal
      subst equal
      rfl
  | NarrativeEvent message => exact effected_broadcastWorldEvent engine message
  | EconomyAdjust resource delta => exact .refl engine
  | FlagActor id reason => exact .refl engine

theorem effected_setTerritory (engine : WorldEngine) (territory : HashMap ZoneId Faction)
    (zonePressure : HashMap ZoneId (Faction × UInt8)) :
    Effected allowed engine { engine with territory, zonePressure } :=
  ⟨rfl, rfl, rfl, rfl, rfl, fun _ => grown_nil _, rfl, rfl, rfl, rfl, rfl, fun _ => rfl, fun _ => ⟨[], map_append_nil _⟩⟩

theorem effected_shiftTerritory (engine : WorldEngine) (zone : ZoneId) (winner : Faction) :
    Effected allowed engine (engine.shiftTerritory zone winner) := by
  unfold WorldEngine.shiftTerritory
  split_ifs
  · exact .refl engine
  · exact .refl engine
  · simp only
    split_ifs
    · exact (effected_setTerritory engine _ _).trans (effected_broadcastWorldEvent _ _)
    · exact effected_setTerritory engine _ _
    · exact effected_setTerritory engine _ _

def Combat : ActorMessage → Prop
  | .TakeDamage _ _ => True
  | .GainXp _ => True
  | _ => False

theorem effected_resolveCombat (engine : WorldEngine) (attacker target : ActorId) :
    Effected Combat engine (engine.resolveCombat attacker target) := by
  unfold WorldEngine.resolveCombat
  cases engine.prevSnapshot.find? fun s => s.id = attacker with
  | none => exact .refl engine
  | some atk =>
      cases engine.prevSnapshot.find? fun s => s.id = target with
      | none => exact .refl engine
      | some victim =>
          simp only
          split_ifs
          · exact .refl engine
          · have hit : Effected Combat _ _ := (effected_sendToActor engine target
              (.TakeDamage (WorldEngine.attackDamage atk.level victim.level) atk.name)).mono
                (by rintro msg rfl; trivial)
            refine hit.trans (Effected.trans (Effected.mono (effected_sendToActor _ attacker (.GainXp 30)) ?_)
              ((effected_shiftTerritory _ _ _).trans (effected_broadcastWorldEvent _ _)))
            intro msg equal
            subst equal
            trivial

/-! ## Recentring the windows -/

theorem find_snapshot {rt : ActorRuntime} (inv : Wired rt) (ord : Order) (id : ActorId) :
    ((rt.snapshotAll ord).find? fun s => s.id = id) = (rt.actors.lookup id).map Actor.state := by
  have stateId : ∀ s ∈ rt.snapshotAll ord, ∃ actor, rt.actors.lookup s.id = some actor ∧ actor.state = s := by
    intro s member
    obtain ⟨actor, stored, rfl⟩ := List.mem_map.mp member
    obtain ⟨key, found⟩ := HashMap.mem_values.mp stored
    exact ⟨actor, by rw [Actor.snapshot, (inv.keyed key actor found).2]; exact found, rfl⟩
  cases found : rt.actors.lookup id with
  | none =>
      refine List.find?_eq_none.mpr fun s member same => ?_
      obtain ⟨actor, there, -⟩ := stateId s member
      rw [of_decide_eq_true same, found] at there
      cases there
  | some actor =>
      have member : actor.state ∈ rt.snapshotAll ord :=
        List.mem_map_of_mem (HashMap.mem_values.mpr ⟨id, found⟩)
      have own : actor.state.id = id := (inv.keyed id actor found).2
      cases result : (rt.snapshotAll ord).find? fun s => s.id = id with
      | none => exact absurd own (by simpa using List.find?_eq_none.mp result _ member)
      | some s =>
          have same : s.id = id := by simpa using List.find?_some result
          obtain ⟨other, there, rfl⟩ := stateId s (List.mem_of_find?_eq_some result)
          rw [same, found] at there
          cases there
          rfl

theorem updateCell_lookup (interest : InterestManager) (session other : SessionId) (cell : GridCell) :
    (interest.updateCell session cell).sessionAnchors.lookup other =
      if other = session then (interest.sessionAnchors.lookup other).map fun entry => (entry.1, cell)
      else interest.sessionAnchors.lookup other := by
  unfold InterestManager.updateCell
  cases found : interest.sessionAnchors.lookup session with
  | none =>
      split_ifs with same
      · rw [same, found]
        rfl
      · rfl
  | some entry =>
      simp only [HashMap.lookup_insert_eq]
      split_ifs with same
      · rw [same, found]
        rfl
      · rfl

theorem updateCell_radius (interest : InterestManager) (session : SessionId) (cell : GridCell) :
    (interest.updateCell session cell).radius = interest.radius := by
  unfold InterestManager.updateCell
  cases interest.sessionAnchors.lookup session <;> rfl

def recentre (id : ActorId) (cell : GridCell) (interest : InterestManager)
    (sessions : List (SessionId × ActorId × GridCell)) : InterestManager :=
  sessions.foldl (fun interest entry =>
    if entry.2.1 = id then interest.updateCell entry.1 cell else interest) interest

theorem recentre_radius (id : ActorId) (cell : GridCell) (interest : InterestManager)
    (sessions : List (SessionId × ActorId × GridCell)) :
    (recentre id cell interest sessions).radius = interest.radius := by
  induction sessions generalizing interest with
  | nil => rfl
  | cons entry rest ih =>
      refine (ih _).trans ?_
      simp only
      split_ifs
      · exact updateCell_radius interest entry.1 cell
      · rfl

theorem recentre_lookup (id : ActorId) (cell : GridCell) (interest : InterestManager)
    (sessions : List (SessionId × ActorId × GridCell)) (session : SessionId) :
    (recentre id cell interest sessions).sessionAnchors.lookup session =
      if ∃ entry ∈ sessions, entry.1 = session ∧ entry.2.1 = id
      then (interest.sessionAnchors.lookup session).map fun entry => (entry.1, cell)
      else interest.sessionAnchors.lookup session := by
  induction sessions generalizing interest with
  | nil => simp [recentre]
  | cons entry rest ih =>
      have split : (∃ e ∈ entry :: rest, e.1 = session ∧ e.2.1 = id) ↔
          (entry.1 = session ∧ entry.2.1 = id) ∨ ∃ e ∈ rest, e.1 = session ∧ e.2.1 = id := by simp
      refine (ih _).trans ?_
      simp only [split]
      by_cases anchored : entry.2.1 = id
      · simp only [anchored, reduceIte, updateCell_lookup, and_true]
        by_cases mine : session = entry.1
        · subst mine
          by_cases later : ∃ e ∈ rest, e.1 = entry.1 ∧ e.2.1 = id
          · rw [if_pos later, if_pos rfl, if_pos (.inl rfl), Option.map_map]
            rfl
          · rw [if_neg later, if_pos rfl, if_pos (.inl rfl)]
        · simp only [mine, reduceIte, show ¬entry.1 = session from fun h => mine h.symm, false_or]
      · simp only [anchored, reduceIte, and_false, false_or]

theorem mem_sessions {interest : InterestManager} {session : SessionId} {anchor : ActorId} {cell : GridCell} :
    (session, anchor, cell) ∈ interest.sessions ord ↔
      interest.sessionAnchors.lookup session = some (anchor, cell) := by
  simp only [InterestManager.sessions, List.mem_map, Order.mem_visit]
  constructor
  · intro given
    obtain ⟨⟨s, a, c⟩, member, same⟩ := given
    cases same
    exact HashMap.mem_entries_iff.mp member
  · intro found
    exact ⟨⟨session, anchor, cell⟩, HashMap.mem_entries_iff.mpr found, rfl⟩

theorem followAnchor_lookup (inv : Wired engine.runtime) (id : ActorId) (session : SessionId) :
    (engine.followAnchor ord id).interest.sessionAnchors.lookup session =
      (engine.interest.sessionAnchors.lookup session).map fun entry =>
        match engine.runtime.actors.lookup id with
        | some actor => (entry.1, if entry.1 = id then actor.state.cell else entry.2)
        | none => entry := by
  unfold WorldEngine.followAnchor
  rw [find_snapshot inv]
  cases engine.runtime.actors.lookup id with
  | none => simp
  | some actor =>
      change (recentre id actor.state.cell engine.interest (engine.interest.sessions ord)).sessionAnchors.lookup
        session = _
      rw [recentre_lookup]
      cases found : engine.interest.sessionAnchors.lookup session with
      | none => simp
      | some entry =>
          obtain ⟨anchor, cell⟩ := entry
          have mine : (∃ e ∈ engine.interest.sessions ord, e.1 = session ∧ e.2.1 = id) ↔ anchor = id := by
            constructor
            · rintro ⟨⟨s, a, c⟩, member, rfl, rfl⟩
              rw [mem_sessions, found] at member
              cases member
              rfl
            · intro equal
              subst equal
              exact ⟨(session, anchor, cell), mem_sessions.mpr found, rfl, rfl⟩
          simp only [mine, Option.map_some]
          split_ifs <;> rfl

theorem effected_followAnchor (engine : WorldEngine) (ord : Order) (id : ActorId) :
    Effected allowed engine (engine.followAnchor ord id) := by
  unfold WorldEngine.followAnchor
  cases (engine.runtime.snapshotAll ord).find? fun s => s.id = id with
  | none => exact .refl engine
  | some snap =>
      refine ⟨rfl, rfl, rfl, rfl, rfl, fun _ => grown_nil _, rfl, rfl, rfl, rfl,
        recentre_radius id snap.cell engine.interest _, ?_, fun _ => ⟨[], map_append_nil _⟩⟩
      intro session
      refine (congrArg (Option.map Prod.fst)
        (recentre_lookup id snap.cell engine.interest (engine.interest.sessions ord) session)).trans ?_
      split_ifs
      · rw [Option.map_map]
        rfl
      · rfl

/-! ## All effects -/

theorem Effected.wired (effected : Effected allowed before after) (inv : Wired before.runtime) :
    Wired after.runtime := by
  have same : after.runtime = { before.runtime with inboxes := after.runtime.inboxes } := by
    simp only [← effected.actors, ← effected.handles, ← effected.grid, ← effected.stats]
  rw [same]
  exact inv.setInboxes effected.next

theorem Effected.consistent (effected : Effected allowed before after) (inv : Consistent before.runtime) :
    Consistent after.runtime := by
  have same : after.runtime = { before.runtime with inboxes := after.runtime.inboxes } := by
    simp only [← effected.actors, ← effected.handles, ← effected.grid, ← effected.stats]
  rw [same]
  exact inv.setInboxes effected.next

theorem effected_processEffect (engine : WorldEngine) (ord : Order) (effect : ActorEffect) :
    Effected Combat engine (WorldEngine.processEffect ord engine effect) := by
  cases effect with
  | Move id dest => exact effected_followAnchor engine ord id
  | Interact source target action =>
      simp only [WorldEngine.processEffect]
      split_ifs
      · exact effected_resolveCombat engine source target
      · exact .refl engine
  | Died id name killerName => exact effected_broadcastWorldEvent engine _
  | LevelUp id name level => exact effected_broadcastWorldEvent engine _
  | Speak id text => exact .refl engine
  | Damaged id newHp => exact .refl engine

theorem effected_effects (engine : WorldEngine) (ord : Order) (effects : List ActorEffect) :
    Effected Combat engine (effects.foldl (WorldEngine.processEffect ord) engine) := by
  induction effects generalizing engine with
  | nil => exact .refl engine
  | cons effect rest ih => exact (effected_processEffect engine ord effect).trans (ih _)

/-! ## Where the windows end up -/

theorem sendToActor_interest (engine : WorldEngine) (id : ActorId) (msg : ActorMessage) :
    (engine.sendToActor id msg).2.interest = engine.interest := by
  unfold WorldEngine.sendToActor
  cases engine.runtime.handle id <;> rfl

theorem shiftTerritory_interest (engine : WorldEngine) (zone : ZoneId) (winner : Faction) :
    (engine.shiftTerritory zone winner).interest = engine.interest := by
  unfold WorldEngine.shiftTerritory
  split_ifs
  · rfl
  · rfl
  · simp only
    split_ifs <;> rfl

theorem resolveCombat_interest (engine : WorldEngine) (attacker target : ActorId) :
    (engine.resolveCombat attacker target).interest = engine.interest := by
  unfold WorldEngine.resolveCombat
  cases engine.prevSnapshot.find? fun s => s.id = attacker with
  | none => rfl
  | some atk =>
      cases engine.prevSnapshot.find? fun s => s.id = target with
      | none => rfl
      | some victim =>
          simp only
          split_ifs
          · rfl
          · simp only [WorldEngine.broadcastWorldEvent, shiftTerritory_interest, sendToActor_interest]

/-- Each window is centred on its anchor's cell, or `effects` still hold a move of the anchor. -/
def Centred (engine : WorldEngine) (effects : List ActorEffect) : Prop :=
  ∀ session anchor cell actor, engine.interest.sessionAnchors.lookup session = some (anchor, cell) →
    engine.runtime.actors.lookup anchor = some actor →
    cell = actor.state.cell ∨ ∃ dest, ActorEffect.Move anchor dest ∈ effects

theorem centred_processEffect {effect : ActorEffect} {rest : List ActorEffect} (inv : Wired engine.runtime)
    (centred : Centred engine (effect :: rest)) : Centred (WorldEngine.processEffect ord engine effect) rest := by
  intro session anchor cell actor window live
  rw [(effected_processEffect engine ord effect).actors] at live
  -- unless the effect is a move, the windows stand where they stood
  have still : (∀ id dest, effect ≠ .Move id dest) →
      (WorldEngine.processEffect ord engine effect).interest = engine.interest →
      cell = actor.state.cell ∨ ∃ dest, ActorEffect.Move anchor dest ∈ rest := by
    intro other same
    rw [same] at window
    rcases centred session anchor cell actor window live with here | ⟨dest, member⟩
    · exact .inl here
    · rcases List.mem_cons.mp member with now | later
      · exact absurd now.symm (other anchor dest)
      · exact .inr ⟨dest, later⟩
  cases effect with
  | Move id dest =>
      simp only [WorldEngine.processEffect] at window
      rw [followAnchor_lookup inv, Option.map_eq_some_iff] at window
      obtain ⟨⟨anchor', cell'⟩, before, moved⟩ := window
      by_cases mine : anchor' = id
      · subst mine
        cases found : engine.runtime.actors.lookup anchor' with
        | none =>
            rw [found] at moved
            cases moved
            rw [found] at live
            cases live
        | some actor' =>
            simp only [found, reduceIte, Prod.mk.injEq] at moved
            obtain ⟨rfl, rfl⟩ := moved
            rw [found] at live
            cases live
            exact .inl rfl
      · have same : anchor' = anchor ∧ cell' = cell := by
          cases found : engine.runtime.actors.lookup id <;> simpa [found, mine] using moved
        obtain ⟨rfl, rfl⟩ := same
        rcases centred session anchor' cell' actor before live with here | ⟨dest', member⟩
        · exact .inl here
        · rcases List.mem_cons.mp member with now | later
          · cases now
            exact absurd rfl mine
          · exact .inr ⟨dest', later⟩
  | Interact source target action =>
      apply still nofun
      simp only [WorldEngine.processEffect]
      split_ifs
      · exact resolveCombat_interest engine source target
      · rfl
  | Speak id text => exact still nofun rfl
  | Damaged id newHp => exact still nofun rfl
  | Died id name killerName => exact still nofun rfl
  | LevelUp id name level => exact still nofun rfl

theorem centred_effects (effects : List ActorEffect) (inv : Wired engine.runtime)
    (centred : Centred engine effects) : Centred (effects.foldl (WorldEngine.processEffect ord) engine) [] := by
  induction effects generalizing engine with
  | nil => exact centred
  | cons effect rest ih =>
      exact ih ((effected_processEffect engine ord effect).wired inv) (centred_processEffect inv centred)

end LiveWorld.Proof.Engine

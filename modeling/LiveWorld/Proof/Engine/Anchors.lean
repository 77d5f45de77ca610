import LiveWorld.Proof.Engine.Calls
import LiveWorld.Spec.Anchors
import LiveWorld.Spec.Bookkeeping

/-!
# Every session is attached to a live actor

An actor is spawned for one session and leaves only with it, so no session loses its actor to another.
-/

namespace LiveWorld.Proof.Engine
open HashTable Spec Proof.Runtime
variable {cfg : WorldConfig} {ids : List ActorId} {engine after : WorldEngine}

/-- Windows are anchored at the sessions' own actors, which are live and nobody else's. -/
structure Owned (engine : WorldEngine) : Prop where
  anchors : ∀ session,
    engine.sessionToActor.lookup session = (engine.interest.sessionAnchors.lookup session).map Prod.fst
  live : ∀ session id, engine.sessionToActor.lookup session = some id → id ∈ engine.runtime.actors
  apart : ∀ session other id, engine.sessionToActor.lookup session = some id →
    engine.sessionToActor.lookup other = some id → session = other

theorem owned_new (cfg : WorldConfig) : Owned (WorldEngine.new cfg) := by
  refine ⟨fun session => rfl, fun session id found => ?_, fun session other id found => ?_⟩
  · cases found
  · cases found

theorem Owned.congr (inv : Owned engine) (owners : after.sessionToActor = engine.sessionToActor)
    (anchors : ∀ session, (after.interest.sessionAnchors.lookup session).map Prod.fst =
      (engine.interest.sessionAnchors.lookup session).map Prod.fst)
    (live : ∀ id ∈ engine.runtime.actors, id ∈ after.runtime.actors) : Owned after := by
  refine ⟨fun session => ?_, ?_, ?_⟩
  · rw [owners, anchors, inv.anchors]
  · rw [owners]
    exact fun session id found => live id (inv.live session id found)
  · rw [owners]
    exact inv.apart

theorem Owned.effected {allowed : ActorMessage → Prop} (inv : Owned engine) (effected : Effected allowed engine after) :
    Owned after := by
  refine inv.congr effected.sessionToActor effected.anchors fun id live => ?_
  rw [effected.actors]
  exact live

theorem Owned.spawnActorForSession (inv : Owned engine) (ord : Order) {spec : ActorSpec}
    (fresh : spec.id ∉ engine.runtime.actors) (session : SessionId) :
    Owned (engine.spawnActorForSession ord spec session).2 := by
  have owners (other : SessionId) : (engine.spawnActorForSession ord spec session).2.sessionToActor.lookup other =
      if other = session then some spec.id else engine.sessionToActor.lookup other := HashMap.lookup_insert_eq _ _ _ _
  have unused (other : SessionId) : engine.sessionToActor.lookup other ≠ some spec.id :=
    fun found => fresh (inv.live other _ found)
  refine ⟨fun other => ?_, fun other id found => ?_, fun first second id => ?_⟩
  · rw [owners]
    change _ = ((engine.interest.sessionAnchors.insert session (spec.id, _)).lookup other).map Prod.fst
    rw [HashMap.lookup_insert_eq]
    split_ifs
    · rfl
    · exact inv.anchors other
  · rw [owners] at found
    refine (mem_spawnActor engine.runtime spec id).mpr ?_
    split_ifs at found
    · exact .inl (Option.some.inj found).symm
    · exact .inr (inv.live other id found)
  · rw [owners, owners]
    split_ifs with one two
    · exact fun _ _ => one.trans two.symm
    · exact fun mine theirs => absurd (theirs.trans mine.symm) (unused second)
    · exact fun theirs mine => absurd (theirs.trans mine.symm) (unused first)
    · exact inv.apart first second id

theorem Owned.removeSession (inv : Owned engine) (session : SessionId) (despawn : Bool) :
    Owned (engine.removeSession session despawn) := by
  refine ⟨fun other => ?_, fun other id found => ?_, fun first second id => ?_⟩
  · rw [removeSession_owners, removeSession_interest]
    change _ = ((engine.interest.sessionAnchors.erase session).lookup other).map Prod.fst
    rw [HashMap.lookup_erase_eq]
    split_ifs
    · rfl
    · exact inv.anchors other
  · rw [removeSession_owners] at found
    split_ifs at found with other
    rw [← AList.lookup_isSome, removeSession_lookup]
    split_ifs with mine
    · exact absurd (inv.apart _ _ id found mine.2) other
    · exact AList.lookup_isSome.mpr (inv.live _ id found)
  · rw [removeSession_owners, removeSession_owners]
    split_ifs
    · exact fun found => by cases found
    · exact fun found => by cases found
    · exact fun _ found => by cases found
    · exact inv.apart first second id

theorem Owned.drainSession (inv : Owned engine) (session : SessionId) : Owned (engine.drainSession session).2 := by
  obtain ⟨queues, drained, -⟩ := drainSession_spec engine session
  rw [drained]
  exact inv.congr rfl (fun _ => rfl) fun _ live => live

theorem Owned.tick (inv : Owned engine) (sound : Sound cfg ids engine) (ord : Order) (clock : SessionId → UInt64) :
    Owned (engine.tick ord clock) := by
  have finished := finished_tick engine ord clock
  have effected := effected_applyEffects engine ord
  refine inv.congr (finished.sessionToActor.trans effected.sessionToActor) (fun session => ?_)
    fun id live => (sound.mem_tick ord clock id).mpr live
  rw [finished.interest]
  exact effected.anchors session

theorem Owned.call (inv : Owned engine) (sound : Sound cfg ids engine) {call : EngineCall}
    (fresh : ∀ spec ∈ call.spawned, spec.id ∉ ids) (owned : ∀ id, call ≠ .despawnActor id) :
    Owned (call.apply engine) := by
  cases call with
  | spawnActorForSession ord spec session =>
      exact inv.spawnActorForSession ord (fun live => fresh spec rfl (sound.used _ live)) session
  | spawnActorStandalone spec =>
      exact inv.congr rfl (fun _ => rfl) fun id live => (mem_spawnActor engine.runtime spec id).mpr (.inr live)
  | removeSession session despawn => exact inv.removeSession session despawn
  | despawnActor id => exact absurd rfl (owned id)
  | send handle msg => exact inv.effected (effected_send engine handle msg)
  | applyDirective directive => exact inv.effected (effected_applyDirective engine directive)
  | broadcastWorldEvent message => exact inv.congr rfl (fun _ => rfl) fun _ live => live
  | drainSession session => exact inv.drainSession session
  | tick ord clock => exact inv.tick sound ord clock

theorem Owned.attached (inv : Owned engine) (sound : Sound cfg ids engine) : Attached engine := by
  have windows (session : SessionId) : session ∈ engine.interest.sessionAnchors ↔ session ∈ engine.sessionToActor := by
    rw [← AList.lookup_isSome, ← AList.lookup_isSome, inv.anchors, Option.isSome_map]
  refine ⟨fun session => (sound.queued session).symm.trans (windows session), windows, ?_, ?_⟩
  · intro session anchor cell window
    rw [inv.anchors, window]
    rfl
  · intro session id found
    obtain ⟨actor, live⟩ := HashMap.lookup_of_mem (inv.live session id found)
    have anchor := inv.anchors session
    rw [found] at anchor
    obtain ⟨⟨anchor', cell⟩, window, rfl⟩ := Option.map_eq_some_iff.mp anchor.symm
    refine ⟨actor, live, ?_⟩
    rcases sound.centred session anchor' cell actor window live with here | ⟨dest, member⟩
    · rw [window, here]
    · cases member

theorem sessions_attached (cfg : WorldConfig) {w : World} (reachable : WorldReachable cfg ThroughSessions w) :
    Attached w.engine := by
  have inv : Sound cfg w.actorIds w.engine ∧ Owned w.engine := by
    induction reachable with
    | start first =>
        subst first
        exact ⟨sound_new cfg, owned_new cfg⟩
    | @step s s' call _ allowed moved ih =>
        cases moved
        obtain ⟨sound, owned⟩ := ih
        exact ⟨sound.call call allowed.distinct allowed.running, owned.call sound allowed.distinct allowed.owned⟩
  exact inv.2.attached inv.1

-- two sessions join, the actor of the first walks away, and the other session leaves with its actor
theorem sessions_attached_walked :
    let born := (World.start .default).next (.spawnActorForSession .stored (villager 1 ⟨5, 5⟩) ⟨1⟩)
    let met := born.next (.spawnActorForSession .stored (villager 2 ⟨15, 5⟩) ⟨2⟩)
    let told := met.next (.send ⟨⟨1⟩, 0⟩ (.Move ⟨500, 500⟩))
    let walked := (told.next (.tick .stored fun _ => 0)).next (.removeSession ⟨2⟩ true)
    (walked.engine.interest.sessionAnchors.lookup ⟨1⟩ = some (⟨1⟩, ⟨50, 50⟩)) ∧ Attached walked.engine := by
  intro born met told walked
  refine ⟨by decide +kernel, sessions_attached .default (.step (.step (.step (.step (.step (.start rfl) ?_ rfl) ?_ rfl)
    ?_ rfl) ?_ rfl) ?_ rfl)⟩
  · refine ⟨fun _ _ => List.not_mem_nil, fun same => ?_, fun id same => ?_⟩ <;> cases same
  · refine ⟨?_, fun same => ?_, fun id same => ?_⟩
    · rintro spec ⟨⟩
      decide
    all_goals cases same
  all_goals refine ⟨fun spec same => ?_, fun same => ?_, fun id same => ?_⟩ <;> cases same

end LiveWorld.Proof.Engine

import LiveWorld.Proof.Runtime.Actor

/-!
# One tick of the runtime

`Wired` says that actors are stored under their own id and that each of them has an inbox of its own,
fed by its handle. Because of that the actors of one tick do not interfere, and `rounds` gives every actor
of the next state from its own actor and inbox. `Consistent` adds the bookkeeping.
-/

namespace LiveWorld.Proof.Runtime
open HashTable Spec
variable {rt : ActorRuntime}

structure Wired (rt : ActorRuntime) : Prop where
  sameKeys : ∀ id, id ∈ rt.actors ↔ id ∈ rt.handles
  feeds : ∀ id actor handle, rt.actors.lookup id = some actor → rt.handles.lookup id = some handle →
    handle.sender = actor.inbox
  keyed : ∀ id actor, rt.actors.lookup id = some actor → actor.spec.id = id ∧ actor.state.id = id
  allocated : ∀ id actor, rt.actors.lookup id = some actor → actor.inbox < rt.inboxes.next
  ownInbox : ∀ id id' actor actor', rt.actors.lookup id = some actor → rt.actors.lookup id' = some actor' →
    actor.inbox = actor'.inbox → id = id'

structure Consistent (rt : ActorRuntime) : Prop extends Bookkeeping rt, Wired rt

/-! ## Replacing one actor -/

theorem lookup_replace {actor : Actor} {id : ActorId} {P : ActorId → Actor → Prop}
    (mine : P id actor) (others : ∀ id' actor', rt.actors.lookup id' = some actor' → P id' actor') :
    ∀ id' actor', (rt.actors.insert id actor).lookup id' = some actor' → P id' actor' := by
  intro id' actor' found
  rw [HashMap.lookup_insert_eq] at found
  split_ifs at found with same
  · cases found
    exact same ▸ mine
  · exact others id' actor' found

theorem Wired.replace (inv : Wired rt) {id : ActorId} {actor actor' : Actor} {grid : SpatialGrid}
    {inboxes : Inboxes} (found : rt.actors.lookup id = some actor) (spec : actor'.spec = actor.spec)
    (inbox : actor'.inbox = actor.inbox) (stateId : actor'.state.id = actor.state.id)
    (next : inboxes.next = rt.inboxes.next) :
    Wired { rt with actors := rt.actors.insert id actor', grid, inboxes } := by
  have member : id ∈ rt.actors := HashMap.mem_of_lookup found
  refine ⟨?_, ?_, ?_, ?_, ?_⟩
  · intro other
    rw [AList.mem_insert, ← inv.sameKeys]
    exact ⟨fun either => either.elim (fun same => same ▸ member) fun kept => kept, .inr⟩
  · have feeds : ∀ other a, (rt.actors.insert id actor').lookup other = some a →
        ∀ handle, rt.handles.lookup other = some handle → handle.sender = a.inbox := by
      refine lookup_replace ?_ fun other a there handle => inv.feeds other a handle there
      intro handle held
      rw [inbox]
      exact inv.feeds id actor handle found held
    exact fun other a handle there held => feeds other a there handle held
  · refine lookup_replace ?_ inv.keyed
    rw [spec, stateId]
    exact inv.keyed id actor found
  · rw [next]
    exact lookup_replace (inbox ▸ inv.allocated id actor found) inv.allocated
  · have old : ∀ j a, (rt.actors.insert id actor').lookup j = some a →
        ∃ b, rt.actors.lookup j = some b ∧ b.inbox = a.inbox :=
      lookup_replace ⟨actor, found, inbox.symm⟩ (fun j a h => ⟨a, h, rfl⟩)
    intro i j a b first second same
    obtain ⟨a', found, sameA⟩ := old i a first
    obtain ⟨b', found', sameB⟩ := old j b second
    exact inv.ownInbox i j a' b' found found' (by rw [sameA, sameB, same])

theorem Consistent.replace (inv : Consistent rt) {id : ActorId} {actor actor' : Actor} {grid : SpatialGrid}
    {inboxes : Inboxes} (found : rt.actors.lookup id = some actor) (spec : actor'.spec = actor.spec)
    (inbox : actor'.inbox = actor.inbox) (stateId : actor'.state.id = actor.state.id)
    (refiled : Refiled rt.grid grid id actor'.state.cell) (next : inboxes.next = rt.inboxes.next) :
    Consistent { rt with actors := rt.actors.insert id actor', grid, inboxes } := by
  have wired : Wired { rt with actors := rt.actors.insert id actor', grid, inboxes } :=
    inv.toWired.replace found spec inbox stateId next
  have count : HashMap.size (rt.actors.insert id actor') = HashMap.size rt.actors :=
    HashMap.size_insert_of_mem (HashMap.mem_of_lookup found) actor'
  refine ⟨⟨wired.sameKeys, wired.feeds, ?_, ?_, ?_, ?_, ?_⟩, wired.keyed, wired.allocated, wired.ownInbox⟩
  · intro id' other found' cell
    rw [HashMap.lookup_insert_eq] at found'
    rw [refiled.filed]
    split_ifs at found' ⊢ with same
    · cases found'
      rfl
    · exact inv.filed id' other found' cell
  · intro cell other filed
    rw [refiled.filed] at filed
    rw [AList.mem_insert]
    split_ifs at filed with same
    · exact .inl same
    · exact .inr (inv.onlyLive cell other filed)
  · exact refiled.occupied inv.occupied
  · intro ord
    simp only [ActorRuntime.actorCount, count]
    rw [totalActors_eq, refiled.population, ← totalActors_eq _ ord, inv.total]
    rfl
  · simp only [ActorRuntime.actorCount, count]
    exact inv.counted

/-! ## One round of the loop -/

section Loop
variable {tickNum : UInt64} {loop : ActorRuntime.TickLoop} {id : ActorId} {actor : Actor}

abbrev ticked (rt : ActorRuntime) (tickNum : UInt64) (actor : Actor) : Actor :=
  afterTick rt.grid.cellSize tickNum (rt.inboxes.pending actor.inbox) actor

abbrev effectsOf (rt : ActorRuntime) (tickNum : UInt64) (actor : Actor) : List ActorEffect :=
  (drained tickNum (rt.inboxes.pending actor.inbox) actor).2.1

abbrev leftOf (rt : ActorRuntime) (tickNum : UInt64) (actor : Actor) : List ActorMessage :=
  (drained tickNum (rt.inboxes.pending actor.inbox) actor).2.2

theorem tickActor_eq (tickNum : UInt64) (loop : ActorRuntime.TickLoop) (key : actor.spec.id = id) :
    ActorRuntime.tickActor tickNum loop ⟨id, actor⟩ =
      { runtime :=
          { loop.runtime with
            actors := loop.runtime.actors.insert id (ticked loop.runtime tickNum actor)
            grid := (ActorRuntime.applyMoves loop.runtime.grid
              (drained tickNum (loop.runtime.inboxes.pending actor.inbox) actor).1
              (effectsOf loop.runtime tickNum actor)).1
            inboxes := loop.runtime.inboxes.set actor.inbox (leftOf loop.runtime tickNum actor) }
        allEffects := loop.allEffects ++ effectsOf loop.runtime tickNum actor
        toDespawn := if (ticked loop.runtime tickNum actor).isAlive then loop.toDespawn
          else loop.toDespawn ++ [id] } := by
  have moved := applyMoves_drained loop.runtime.grid tickNum (loop.runtime.inboxes.pending actor.inbox) actor
  have same : SameActor (actor.tick tickNum) (ticked loop.runtime tickNum actor) := afterTick_same _ _ _ _
  have sameId : (ticked loop.runtime tickNum actor).id = id := by
    rw [Actor.id, same.spec]
    exact key
  have sameInbox : (ticked loop.runtime tickNum actor).inbox = actor.inbox := same.inbox
  simp only [ActorRuntime.tickActor]
  change ActorRuntime.TickLoop.mk
    { loop.runtime with
      actors := loop.runtime.actors.insert id (ActorRuntime.applyMoves _ _ _).2
      grid := (ActorRuntime.applyMoves _ _ _).1
      inboxes := loop.runtime.inboxes.set (ActorRuntime.applyMoves _ _ _).2.inbox _ } _
    (if (ActorRuntime.applyMoves _ _ _).2.isAlive then _ else _ ++ [(ActorRuntime.applyMoves _ _ _).2.id]) = _
  erw [moved, sameId, sameInbox]
  rfl

/-- What the round for one actor does to `loop`. -/
structure Round (tickNum : UInt64) (loop : ActorRuntime.TickLoop) (id : ActorId) (actor : Actor)
    (result : ActorRuntime.TickLoop) : Prop where
  wired : Wired result.runtime
  cellSize : result.runtime.grid.cellSize = loop.runtime.grid.cellSize
  next : result.runtime.inboxes.next = loop.runtime.inboxes.next
  lookup : ∀ other, result.runtime.actors.lookup other =
    if other = id then some (ticked loop.runtime tickNum actor) else loop.runtime.actors.lookup other
  effects : result.allEffects = loop.allEffects ++ effectsOf loop.runtime tickNum actor
  despawn : result.toDespawn = loop.toDespawn ++ if (ticked loop.runtime tickNum actor).isAlive then [] else [id]
  left : result.runtime.inboxes.pending actor.inbox = leftOf loop.runtime tickNum actor
  untouched : ∀ ref, ref ≠ actor.inbox → result.runtime.inboxes.pending ref = loop.runtime.inboxes.pending ref

theorem round (tickNum : UInt64) (inv : Wired loop.runtime) (found : loop.runtime.actors.lookup id = some actor) :
    Round tickNum loop id actor (ActorRuntime.tickActor tickNum loop ⟨id, actor⟩) := by
  have same : SameActor (actor.tick tickNum) (ticked loop.runtime tickNum actor) := afterTick_same _ _ _ _
  rw [tickActor_eq tickNum loop (inv.keyed id actor found).1]
  refine ⟨inv.replace found same.spec same.inbox same.id rfl, (applyMoves_spec _ _ _).2, rfl, fun other => ?_, rfl, ?_,
    ?_, ?_⟩
  · exact HashMap.lookup_insert_eq _ _ _ _
  · cases (ticked loop.runtime tickNum actor).isAlive <;> simp
  · exact Function.update_self _ _ _
  · exact fun ref other => Function.update_of_ne other _ _

theorem Consistent.tickActor (tickNum : UInt64) (inv : Consistent loop.runtime)
    (found : loop.runtime.actors.lookup id = some actor) :
    Consistent (ActorRuntime.tickActor tickNum loop ⟨id, actor⟩).runtime := by
  have key : actor.spec.id = id := (inv.keyed id actor found).1
  have here : ∀ cell, Filed loop.runtime.grid cell actor.spec.id ↔ cell = actor.state.cell := by
    rw [key]
    exact inv.filed id actor found
  have refiled := refiled_drained tickNum (loop.runtime.inboxes.pending actor.inbox) here
  have same : SameActor (actor.tick tickNum) (ticked loop.runtime tickNum actor) := afterTick_same _ _ _ _
  rw [key] at refiled
  rw [tickActor_eq tickNum loop key]
  exact inv.replace found same.spec same.inbox same.id refiled rfl

structure Rounds (tickNum : UInt64) (loop : ActorRuntime.TickLoop) (todo : List ((_ : ActorId) × Actor))
    (result : ActorRuntime.TickLoop) : Prop where
  wired : Wired result.runtime
  cellSize : result.runtime.grid.cellSize = loop.runtime.grid.cellSize
  next : result.runtime.inboxes.next = loop.runtime.inboxes.next
  lookup : ∀ id, result.runtime.actors.lookup id =
    if id ∈ todo.keys then (loop.runtime.actors.lookup id).map (ticked loop.runtime tickNum)
    else loop.runtime.actors.lookup id
  effects : result.allEffects =
    loop.allEffects ++ todo.flatMap fun entry => effectsOf loop.runtime tickNum entry.2
  despawn : result.toDespawn = loop.toDespawn ++
    (todo.filter fun entry => !(ticked loop.runtime tickNum entry.2).isAlive).map Sigma.fst
  left : ∀ entry ∈ todo,
    result.runtime.inboxes.pending entry.2.inbox = leftOf loop.runtime tickNum entry.2
  untouched : ∀ ref, (∀ entry ∈ todo, entry.2.inbox ≠ ref) →
    result.runtime.inboxes.pending ref = loop.runtime.inboxes.pending ref

theorem rounds_nil (tickNum : UInt64) (inv : Wired loop.runtime) : Rounds tickNum loop [] loop := by
  refine ⟨inv, rfl, rfl, fun id => ?_, ?_, ?_, fun entry member => ?_, fun _ _ => rfl⟩
  · rw [if_neg (by simp)]
  · rw [List.flatMap_nil, List.append_nil]
  · rw [List.filter_nil, List.map_nil, List.append_nil]
  · cases member

-- the actors of `rest` have other ids and inboxes, so the first round is nothing to them
theorem Rounds.cons {tickNum : UInt64} {mid result : ActorRuntime.TickLoop} {rest : List ((_ : ActorId) × Actor)}
    (first : Round tickNum loop id actor mid) (found : loop.runtime.actors.lookup id = some actor)
    (others : ∀ later ∈ rest, later.1 ≠ id ∧ loop.runtime.actors.lookup later.1 = some later.2 ∧
      later.2.inbox ≠ actor.inbox)
    (later : Rounds tickNum mid rest result) : Rounds tickNum loop (⟨id, actor⟩ :: rest) result := by
  have absent : id ∉ rest.keys := by
    intro member
    obtain ⟨b, member⟩ := List.mem_keys.mp member
    exact (others _ member).1 rfl
  have pending : ∀ entry ∈ rest, mid.runtime.inboxes.pending entry.2.inbox =
      loop.runtime.inboxes.pending entry.2.inbox :=
    fun entry member => first.untouched _ (others entry member).2.2
  have sameTicked : ∀ entry ∈ rest, ticked mid.runtime tickNum entry.2 = ticked loop.runtime tickNum entry.2 := by
    intro entry member
    rw [ticked, ticked, pending entry member, first.cellSize]
  refine ⟨later.wired, later.cellSize.trans first.cellSize, later.next.trans first.next, ?_, ?_, ?_, ?_, ?_⟩
  · intro other
    rw [later.lookup, first.lookup]
    by_cases mine : other = id
    · subst mine
      rw [if_neg absent, if_pos rfl, if_pos (by simp), found, Option.map_some]
    · simp only [List.keys_cons, List.mem_cons, mine, false_or, if_false]
      split_ifs with member
      · obtain ⟨b, member⟩ := List.mem_keys.mp member
        rw [(others _ member).2.1, Option.map_some, Option.map_some, sameTicked _ member]
      · rfl
  · have tail : (rest.flatMap fun entry => effectsOf mid.runtime tickNum entry.2) =
        rest.flatMap fun entry => effectsOf loop.runtime tickNum entry.2 :=
      List.flatMap_congr fun entry member => by rw [effectsOf, effectsOf, pending entry member]
    rw [later.effects, first.effects, List.flatMap_cons, List.append_assoc, tail]
  · have tail : (rest.filter fun entry => !(ticked mid.runtime tickNum entry.2).isAlive) =
        rest.filter fun entry => !(ticked loop.runtime tickNum entry.2).isAlive :=
      List.filter_congr fun entry member => by rw [sameTicked entry member]
    rw [later.despawn, first.despawn, List.filter_cons, tail]
    cases (ticked loop.runtime tickNum actor).isAlive <;> simp
  · intro entry member
    cases List.mem_cons.mp member with
    | inl same =>
        subst same
        rw [later.untouched _ fun other there => (others other there).2.2]
        exact first.left
    | inr member => rw [later.left entry member, leftOf, leftOf, pending entry member]
  · intro ref outside
    rw [later.untouched ref fun other there => outside other (List.mem_cons_of_mem _ there)]
    exact first.untouched ref (outside _ List.mem_cons_self).symm

/-- The entries that a tick still has to visit: each is in the map, and under a key of its own. -/
structure Visits (rt : ActorRuntime) (todo : List ((_ : ActorId) × Actor)) : Prop where
  distinct : todo.NodupKeys
  stored : ∀ entry ∈ todo, rt.actors.lookup entry.1 = some entry.2

theorem Visits.head {rest : List ((_ : ActorId) × Actor)} (visits : Visits rt (⟨id, actor⟩ :: rest)) :
    rt.actors.lookup id = some actor := visits.stored _ List.mem_cons_self

theorem Visits.others {rest : List ((_ : ActorId) × Actor)} (visits : Visits rt (⟨id, actor⟩ :: rest)) :
    ∀ later ∈ rest, later.1 ≠ id ∧ rt.actors.lookup later.1 = some later.2 := by
  intro later member
  refine ⟨fun equal => ?_, visits.stored later (List.mem_cons_of_mem _ member)⟩
  exact (List.nodupKeys_cons.mp visits.distinct).1 (show id ∈ rest.keys from equal ▸ List.mem_keys_of_mem member)

theorem Visits.tail {rest : List ((_ : ActorId) × Actor)} (visits : Visits loop.runtime (⟨id, actor⟩ :: rest))
    {mid : ActorRuntime.TickLoop} (first : Round tickNum loop id actor mid) : Visits mid.runtime rest := by
  refine ⟨(List.nodupKeys_cons.mp visits.distinct).2, fun later member => ?_⟩
  obtain ⟨differ, there⟩ := visits.others later member
  rw [first.lookup, if_neg differ]
  exact there

theorem rounds (tickNum : UInt64) (loop : ActorRuntime.TickLoop) (todo : List ((_ : ActorId) × Actor))
    (inv : Wired loop.runtime) (visits : Visits loop.runtime todo) :
    Rounds tickNum loop todo (todo.foldl (ActorRuntime.tickActor tickNum) loop) := by
  induction todo generalizing loop with
  | nil => exact rounds_nil tickNum inv
  | cons entry rest ih =>
      obtain ⟨id, actor⟩ := entry
      have first := round tickNum inv visits.head
      have others : ∀ later ∈ rest, later.1 ≠ id ∧ loop.runtime.actors.lookup later.1 = some later.2 ∧
          later.2.inbox ≠ actor.inbox := by
        intro later member
        obtain ⟨differ, there⟩ := visits.others later member
        exact ⟨differ, there, fun equal => differ (inv.ownInbox _ _ _ _ there visits.head equal)⟩
      exact Rounds.cons first visits.head others (ih _ first.wired (visits.tail first))

theorem consistent_rounds (tickNum : UInt64) (loop : ActorRuntime.TickLoop) (todo : List ((_ : ActorId) × Actor))
    (inv : Consistent loop.runtime) (visits : Visits loop.runtime todo) :
    Consistent (todo.foldl (ActorRuntime.tickActor tickNum) loop).runtime := by
  induction todo generalizing loop with
  | nil => exact inv
  | cons entry rest ih =>
      obtain ⟨id, actor⟩ := entry
      have first := round tickNum inv.toWired visits.head
      exact ih _ (inv.tickActor tickNum visits.head) (visits.tail first)

end Loop

end LiveWorld.Proof.Runtime

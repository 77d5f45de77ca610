import LiveWorld.Proof.Engine.Calls
import LiveWorld.Proof.Sync
import LiveWorld.Spec.Cluster

/-!
# The end of an actor in the cluster

As far as one actor is concerned, the cluster is a `View`: who holds it, who has told the others of it,
and what the log says. Its home pod lists it, later evicts it, and then publishes a tombstone. From then on
nobody who has received the tombstone holds the actor, unless some pod tells of it once more; such an echo
would have to reach the home pod too.
-/

namespace LiveWorld.Proof.Cluster
open HashTable Spec Proof.Runtime Proof.Engine Proof.Sync

@[ext] structure View where
  holds : String → Prop
  told : String → Prop
  /-- at its home pod, in the last merge -/
  listed : Prop
  despawned : Prop
  received : String → Nat
  log : List SyncPayload

def Adds (payload : SyncPayload) (id : ActorId) : Prop := ∃ s ∈ payload.updates, s.id = id

/-! ## The life of an actor -/

section Phases
variable (home : String) (id : ActorId)

structure Unseen (v : View) : Prop where
  nobody : ∀ name, ¬v.holds name ∧ ¬v.told name
  unlisted : ¬v.listed
  silent : ∀ payload ∈ v.log, ¬Adds payload id ∧ id ∉ payload.removed

structure Shared (v : View) : Prop where
  listed : v.listed
  held : v.holds home
  kept : ∀ name, v.told name → v.holds name
  noTomb : ∀ payload ∈ v.log, id ∉ payload.removed
  -- until its home has told of it nobody else has it
  secret : ¬v.told home → (∀ name, name ≠ home → ¬v.holds name ∧ ¬v.told name) ∧ ∀ payload ∈ v.log, ¬Adds payload id

structure Gone (v : View) : Prop where
  despawned : v.despawned
  unlisted : ¬v.listed
  evicted : ¬v.holds home

structure Buried (grave : Nat) (v : View) : Prop where
  gone : Gone home v
  untold : ¬v.told home
  tomb : ∃ payload, v.log[grave]? = some payload ∧ payload.podId = home ∧ id ∈ payload.removed
  quiet : ∀ k payload, grave ≤ k → v.log[k]? = some payload → ¬Adds payload id
  cleared : ∀ name, grave < v.received name → ¬v.holds name

/-- An echo that the home pod has not received, and that it would take for news. -/
structure Echoed (v : View) : Prop where
  gone : Gone home v
  echo : ∃ k payload, v.received home ≤ k ∧ v.log[k]? = some payload ∧ payload.podId ≠ home ∧ Adds payload id

/-- Its home has nothing more to say about it. -/
inductive Finished (v : View) : Prop
  | unseen : Unseen id v → v.despawned → Finished v
  | buried (grave : Nat) : Buried home id grave v → Finished v
  | echoed : Echoed home id v → Finished v

inductive Left (v : View) : Prop
  | evicted : Gone home v → v.told home → Left v
  | finished : Finished home id v → Left v

inductive Phase (v : View) : Prop
  | unseen : Unseen id v → Phase v
  | shared : Shared home id v → Phase v
  | left : Left home id v → Phase v

end Phases

/-! ## What a step does to the view -/

section Steps
variable {home : String} {id : ActorId} {v : View}

def View.merged (v : View) (home : String) (live : Prop) : View :=
  { v with holds := Function.update v.holds home (live ∨ v.holds home ∧ ¬v.listed), listed := live }

def View.published (v : View) (name : String) (payload : Option SyncPayload) : View :=
  { v with told := Function.update v.told name (v.holds name), log := v.log ++ payload.toList }

def View.delivered (v : View) (id : ActorId) (name : String) (payload : SyncPayload) : View :=
  { v with
    holds := Function.update v.holds name (if payload.podId = name then v.holds name
      else v.holds name ∧ id ∉ payload.removed ∨ Adds payload id)
    received := Function.update v.received name (v.received name + 1) }

/-- `payload` is what a pod publishes about `id`. -/
structure Reports (v : View) (id : ActorId) (name : String) (payload : Option SyncPayload) : Prop where
  source : ∀ p ∈ payload, p.podId = name
  adds : ∀ p ∈ payload, Adds p id → v.holds name
  removes : ∀ p ∈ payload, id ∈ p.removed ↔ v.told name ∧ ¬v.holds name
  sent : v.told name → ¬v.holds name → payload.isSome

/-- The steps of a cluster, as far as they concern `id`. -/
inductive Moves (home : String) (id : ActorId) (v : View) : View → Prop
  | call (despawned : Prop) : (v.despawned → despawned) → Moves home id v { v with despawned }
  | elsewhere : Moves home id v v
  | merge (live : Prop) : (live → ¬v.despawned) → (v.listed → ¬live → v.despawned) → Moves home id v (v.merged home live)
  | publish (name : String) (payload : Option SyncPayload) : Reports v id name payload →
      (∀ other, v.received other ≤ v.log.length) → Moves home id v (v.published name payload)
  | deliver (name : String) (payload : SyncPayload) : v.log[v.received name]? = some payload →
      (name = home → payload.podId ≠ home → Adds payload id → v.holds home) →
      Moves home id v (v.delivered id name payload)

theorem holds_delivered {name : String} {payload : SyncPayload} (other : String)
    (holds : (v.delivered id name payload).holds other) :
    v.holds other ∧ (other = name → payload.podId ≠ name → id ∉ payload.removed) ∨
      (other = name ∧ payload.podId ≠ name ∧ Adds payload id) := by
  by_cases here : other = name
  · subst here
    simp only [View.delivered, Function.update_self] at holds
    split_ifs at holds with own
    · exact .inl ⟨holds, fun _ foreign => absurd own foreign⟩
    · rcases holds with ⟨held, kept⟩ | added
      · exact .inl ⟨held, fun _ _ => kept⟩
      · exact .inr ⟨rfl, own, added⟩
  · simp only [View.delivered, Function.update_of_ne here] at holds
    exact .inl ⟨holds, fun same => absurd same here⟩

theorem delivered_keeps {name : String} {payload : SyncPayload} {other : String} (held : v.holds other)
    (kept : id ∉ payload.removed) : (v.delivered id name payload).holds other := by
  by_cases here : other = name
  · subst here
    simp only [View.delivered, Function.update_self]
    split_ifs
    · exact held
    · exact .inl ⟨held, kept⟩
  · simp only [View.delivered, Function.update_of_ne here]
    exact held

theorem getElem_published {name : String} {payload : Option SyncPayload} {k : Nat} {p : SyncPayload}
    (there : (v.published name payload).log[k]? = some p) : v.log[k]? = some p ∨ v.log.length ≤ k ∧ p ∈ payload := by
  change (v.log ++ payload.toList)[k]? = some p at there
  by_cases old : k < v.log.length
  · rw [List.getElem?_append_left old] at there
    exact .inl there
  · rw [List.getElem?_append_right (Nat.le_of_not_lt old)] at there
    exact .inr ⟨Nat.le_of_not_lt old, Option.mem_toList.mp (List.mem_of_getElem? there)⟩

theorem Moves.despawned {after : View} (moves : Moves home id v after) (despawned : v.despawned) : after.despawned := by
  cases moves with
  | call gone stays => exact stays despawned
  | _ => exact despawned

/-! ### Before its home tells of it -/

theorem Unseen.merged (inv : Unseen id v) {live : Prop} : Unseen id (v.merged home live) ∨ live ∧ Shared home id (v.merged home live) := by
  by_cases born : live
  · right
    refine ⟨born, born, ?_, ?_, ?_, ?_⟩
    · simp only [View.merged, Function.update_self]
      exact .inl born
    · exact fun name told => absurd told (inv.nobody name).2
    · exact fun payload member => (inv.silent payload member).2
    · intro _
      refine ⟨fun name other => ⟨?_, (inv.nobody name).2⟩, fun payload member => (inv.silent payload member).1⟩
      simp only [View.merged, Function.update_of_ne other]
      exact (inv.nobody name).1
  · left
    refine ⟨fun name => ⟨?_, (inv.nobody name).2⟩, born, inv.silent⟩
    by_cases here : name = home
    · subst here
      simp only [View.merged, Function.update_self]
      exact fun holds => holds.elim born fun both => (inv.nobody name).1 both.1
    · simp only [View.merged, Function.update_of_ne here]
      exact (inv.nobody name).1

theorem Unseen.published (inv : Unseen id v) {name : String} {payload : Option SyncPayload}
    (reports : Reports v id name payload) : Unseen id (v.published name payload) := by
  refine ⟨fun other => ⟨(inv.nobody other).1, ?_⟩, inv.unlisted, ?_⟩
  · by_cases here : other = name
    · subst here
      simp only [View.published, Function.update_self]
      exact (inv.nobody other).1
    · simp only [View.published, Function.update_of_ne here]
      exact (inv.nobody other).2
  · intro p member
    cases List.mem_append.mp member with
    | inl old => exact inv.silent p old
    | inr new =>
        have sent := Option.mem_toList.mp new
        refine ⟨fun adds => (inv.nobody name).1 (reports.adds p sent adds), fun removed => ?_⟩
        exact (inv.nobody name).2 ((reports.removes p sent).mp removed).1

theorem Unseen.delivered (inv : Unseen id v) {name : String} {payload : SyncPayload} (there : payload ∈ v.log) :
    Unseen id (v.delivered id name payload) := by
  refine ⟨fun other => ⟨fun holds => ?_, (inv.nobody other).2⟩, inv.unlisted, inv.silent⟩
  rcases holds_delivered other holds with ⟨held, -⟩ | ⟨-, -, added⟩
  · exact (inv.nobody other).1 held
  · exact (inv.silent payload there).1 added

/-! ### While it is listed -/

theorem Shared.stays (inv : Shared home id v) {live : Prop} (alive : live) : Shared home id (v.merged home live) := by
  have others (name : String) (holds : (v.merged home live).holds name) : name = home ∨ v.holds name := by
    by_cases here : name = home
    · exact .inl here
    · simp only [View.merged, Function.update_of_ne here] at holds
      exact .inr holds
  have held : (v.merged home live).holds home := by
    simp only [View.merged, Function.update_self]
    exact .inl alive
  refine ⟨alive, held, fun name told => ?_, inv.noTomb, fun untold => ?_⟩
  · by_cases here : name = home
    · exact here ▸ held
    · simp only [View.merged, Function.update_of_ne here]
      exact inv.kept name told
  · obtain ⟨nobody, silent⟩ := inv.secret untold
    refine ⟨fun name other => ⟨fun holds => ?_, (nobody name other).2⟩, silent⟩
    exact (others name holds).elim other (nobody name other).1

theorem Shared.leaves (inv : Shared home id v) {live : Prop} (dead : ¬live) (despawned : v.despawned) :
    Unseen id (v.merged home live) ∨ Gone home (v.merged home live) ∧ (v.merged home live).told home := by
  have evicted : ¬(v.merged home live).holds home := by
    simp only [View.merged, Function.update_self]
    exact fun holds => holds.elim dead fun both => both.2 inv.listed
  by_cases told : v.told home
  · exact .inr ⟨⟨despawned, dead, evicted⟩, told⟩
  · left
    obtain ⟨nobody, silent⟩ := inv.secret told
    refine ⟨fun name => ?_, dead, fun payload member => ⟨silent payload member, inv.noTomb payload member⟩⟩
    by_cases here : name = home
    · subst here
      exact ⟨evicted, told⟩
    · refine ⟨?_, (nobody name here).2⟩
      simp only [View.merged, Function.update_of_ne here]
      exact (nobody name here).1

theorem Shared.published (inv : Shared home id v) {name : String} {payload : Option SyncPayload}
    (reports : Reports v id name payload) : Shared home id (v.published name payload) := by
  refine ⟨inv.listed, inv.held, fun other told => ?_, ?_, fun untold => ?_⟩
  · by_cases here : other = name
    · subst here
      simp only [View.published, Function.update_self] at told
      exact told
    · simp only [View.published, Function.update_of_ne here] at told
      exact inv.kept other told
  · intro p member
    cases List.mem_append.mp member with
    | inl old => exact inv.noTomb p old
    | inr new =>
        intro removed
        have lost := (reports.removes p (Option.mem_toList.mp new)).mp removed
        exact lost.2 (inv.kept name lost.1)
  · have foreign : home ≠ name := by
      intro same
      subst same
      simp only [View.published, Function.update_self] at untold
      exact untold inv.held
    simp only [View.published, Function.update_of_ne foreign] at untold
    obtain ⟨nobody, silent⟩ := inv.secret untold
    refine ⟨fun other away => ⟨(nobody other away).1, ?_⟩, fun p member => ?_⟩
    · by_cases here : other = name
      · subst here
        simp only [View.published, Function.update_self]
        exact (nobody other away).1
      · simp only [View.published, Function.update_of_ne here]
        exact (nobody other away).2
    · cases List.mem_append.mp member with
      | inl old => exact silent p old
      | inr new =>
          exact fun adds => (nobody name foreign.symm).1 (reports.adds p (Option.mem_toList.mp new) adds)

theorem Shared.delivered (inv : Shared home id v) {name : String} {payload : SyncPayload} (there : payload ∈ v.log) :
    Shared home id (v.delivered id name payload) := by
  have kept := inv.noTomb payload there
  refine ⟨inv.listed, delivered_keeps inv.held kept, fun other told => delivered_keeps (inv.kept other told) kept,
    inv.noTomb, fun untold => ?_⟩
  obtain ⟨nobody, silent⟩ := inv.secret untold
  refine ⟨fun other away => ⟨fun holds => ?_, (nobody other away).2⟩, silent⟩
  rcases holds_delivered other holds with ⟨held, -⟩ | ⟨-, -, added⟩
  · exact (nobody other away).1 held
  · exact silent payload there added

/-! ### After its home has evicted it -/

theorem Gone.merged (inv : Gone home v) {live : Prop} (dead : ¬live) : Gone home (v.merged home live) := by
  refine ⟨inv.despawned, dead, ?_⟩
  simp only [View.merged, Function.update_self]
  exact fun holds => holds.elim dead fun both => inv.evicted both.1

theorem Gone.delivered (inv : Gone home v) {name : String} {payload : SyncPayload}
    (noLate : name = home → payload.podId ≠ home → Adds payload id → v.holds home) :
    Gone home (v.delivered id name payload) := by
  refine ⟨inv.despawned, inv.unlisted, fun holds => ?_⟩
  rcases holds_delivered home holds with ⟨held, -⟩ | ⟨here, foreign, added⟩
  · exact inv.evicted held
  · exact inv.evicted (noLate here.symm (here ▸ foreign) added)

theorem Gone.buried (inv : Gone home v) (told : v.told home) {payload : Option SyncPayload}
    (reports : Reports v id home payload) (received : ∀ name, v.received name ≤ v.log.length) :
    Buried home id v.log.length (v.published home payload) := by
  obtain ⟨p, sent⟩ := Option.isSome_iff_exists.mp (reports.sent told inv.evicted)
  subst sent
  refine ⟨⟨inv.despawned, inv.unlisted, inv.evicted⟩, ?_, ⟨p, ?_, reports.source p rfl, ?_⟩, ?_, ?_⟩
  · simp only [View.published, Function.update_self]
    exact inv.evicted
  · simp [View.published]
  · exact (reports.removes p rfl).mpr ⟨told, inv.evicted⟩
  · intro k q after there adds
    rcases getElem_published there with old | ⟨-, new⟩
    · have inside := (List.getElem?_eq_some_iff.mp old).1
      omega
    · exact inv.evicted (reports.adds q new adds)
  · intro name beyond
    exact absurd beyond (Nat.not_lt.mpr (received name))

theorem Buried.merged {grave : Nat} (inv : Buried home id grave v) {live : Prop} (dead : ¬live) :
    Buried home id grave (v.merged home live) := by
  refine ⟨inv.gone.merged dead, inv.untold, inv.tomb, inv.quiet, fun name beyond holds => ?_⟩
  by_cases here : name = home
  · subst here
    exact (inv.gone.merged dead).evicted holds
  · simp only [View.merged, Function.update_of_ne here] at holds
    exact inv.cleared name beyond holds

theorem Buried.published {grave : Nat} (inv : Buried home id grave v) {name : String} {payload : Option SyncPayload}
    (reports : Reports v id name payload) (received : v.received home ≤ v.log.length) :
    Buried home id grave (v.published name payload) ∨ Echoed home id (v.published name payload) := by
  have gone : Gone home (v.published name payload) := ⟨inv.gone.despawned, inv.gone.unlisted, inv.gone.evicted⟩
  by_cases echo : ∃ p ∈ payload, Adds p id
  · right
    obtain ⟨p, sent, adds⟩ := echo
    cases Option.mem_def.mp sent
    refine ⟨gone, v.log.length, p, received, by simp [View.published], ?_, adds⟩
    intro own
    have same : name = home := (reports.source p rfl).symm.trans own
    subst same
    exact inv.gone.evicted (reports.adds p rfl adds)
  · left
    obtain ⟨tomb, there, source, removed⟩ := inv.tomb
    have inside := (List.getElem?_eq_some_iff.mp there).1
    refine ⟨gone, ?_, ⟨tomb, ?_, source, removed⟩, ?_, inv.cleared⟩
    · by_cases here : home = name
      · subst here
        simp only [View.published, Function.update_self]
        exact inv.gone.evicted
      · simp only [View.published, Function.update_of_ne here]
        exact inv.untold
    · change (v.log ++ payload.toList)[grave]? = some tomb
      rw [List.getElem?_append_left inside]
      exact there
    · intro k p after found
      rcases getElem_published found with old | ⟨-, new⟩
      · exact inv.quiet k p after old
      · exact fun adds => echo ⟨p, new, adds⟩

theorem Buried.delivered {grave : Nat} (inv : Buried home id grave v) {name : String} {payload : SyncPayload}
    (there : v.log[v.received name]? = some payload)
    (noLate : name = home → payload.podId ≠ home → Adds payload id → v.holds home) :
    Buried home id grave (v.delivered id name payload) := by
  have gone := inv.gone.delivered noLate
  refine ⟨gone, inv.untold, inv.tomb, inv.quiet, fun other beyond holds => ?_⟩
  by_cases mine : other = home
  · subst mine
    exact gone.evicted holds
  by_cases here : other = name
  · subst here
    simp only [View.delivered, Function.update_self] at beyond
    -- the pod is at the tombstone or past it
    have quiet := inv.quiet _ payload (Nat.lt_succ_iff.mp beyond) there
    rcases holds_delivered other holds with ⟨held, kept⟩ | ⟨-, -, added⟩
    · rcases Nat.lt_or_eq_of_le (Nat.lt_succ_iff.mp beyond) with past | now
      · exact inv.cleared other past held
      · obtain ⟨tomb, found, source, removed⟩ := inv.tomb
        rw [now, there] at found
        cases found
        exact kept rfl (fun own => mine (own.symm.trans source)) removed
    · exact quiet added
  · simp only [View.delivered, Function.update_of_ne here] at beyond
    rcases holds_delivered other holds with ⟨held, -⟩ | ⟨same, -⟩
    · exact inv.cleared other beyond held
    · exact here same

theorem Echoed.published (inv : Echoed home id v) {name : String} {payload : Option SyncPayload} :
    Echoed home id (v.published name payload) := by
  obtain ⟨k, p, ahead, there, foreign, adds⟩ := inv.echo
  refine ⟨⟨inv.gone.despawned, inv.gone.unlisted, inv.gone.evicted⟩, k, p, ahead, ?_, foreign, adds⟩
  change (v.log ++ payload.toList)[k]? = some p
  rw [List.getElem?_append_left (List.getElem?_eq_some_iff.mp there).1]
  exact there

theorem Echoed.delivered (inv : Echoed home id v) {name : String} {payload : SyncPayload}
    (there : v.log[v.received name]? = some payload)
    (noLate : name = home → payload.podId ≠ home → Adds payload id → v.holds home) :
    Echoed home id (v.delivered id name payload) := by
  obtain ⟨k, p, ahead, found, foreign, adds⟩ := inv.echo
  refine ⟨inv.gone.delivered noLate, k, p, ?_, found, foreign, adds⟩
  by_cases here : home = name
  · subst here
    simp only [View.delivered, Function.update_self]
    rcases Nat.lt_or_eq_of_le ahead with later | now
    · exact later
    · rw [now, found] at there
      cases there
      exact absurd (noLate rfl foreign adds) inv.gone.evicted
  · simp only [View.delivered, Function.update_of_ne here]
    exact ahead

/-! ### One step -/

theorem Gone.call (inv : Gone home v) {despawned : Prop} (stays : v.despawned → despawned) :
    Gone home { v with despawned } :=
  ⟨stays inv.despawned, inv.unlisted, inv.evicted⟩

theorem Finished.moves {after : View} (inv : Finished home id v) (moves : Moves home id v after) :
    Finished home id after := by
  cases moves with
  | call despawned stays =>
      cases inv with
      | unseen unseen dead => exact .unseen ⟨unseen.nobody, unseen.unlisted, unseen.silent⟩ (stays dead)
      | buried grave buried =>
          exact .buried grave ⟨buried.gone.call stays, buried.untold, buried.tomb, buried.quiet, buried.cleared⟩
      | echoed echoed => exact .echoed ⟨echoed.gone.call stays, echoed.echo⟩
  | elsewhere => exact inv
  | merge live born _ =>
      cases inv with
      | unseen unseen dead =>
          rcases unseen.merged with still | ⟨alive, -⟩
          · exact .unseen still dead
          · exact absurd dead (born alive)
      | buried grave buried => exact .buried grave (buried.merged fun alive => born alive buried.gone.despawned)
      | echoed echoed =>
          exact .echoed ⟨echoed.gone.merged fun alive => born alive echoed.gone.despawned, echoed.echo⟩
  | publish name payload reports received =>
      cases inv with
      | unseen unseen dead => exact .unseen (unseen.published reports) dead
      | buried grave buried =>
          rcases buried.published reports (received home) with still | echoed
          · exact .buried grave still
          · exact .echoed echoed
      | echoed echoed => exact .echoed echoed.published
  | deliver name payload there noLate =>
      cases inv with
      | unseen unseen dead => exact .unseen (unseen.delivered (List.mem_of_getElem? there)) dead
      | buried grave buried => exact .buried grave (buried.delivered there noLate)
      | echoed echoed => exact .echoed (echoed.delivered there noLate)

theorem Left.moves {after : View} (inv : Left home id v) (moves : Moves home id v after) : Left home id after := by
  cases inv with
  | finished inv => exact .finished (inv.moves moves)
  | evicted gone told =>
      cases moves with
      | call despawned stays => exact .evicted (gone.call stays) told
      | elsewhere => exact .evicted gone told
      | merge live born _ => exact .evicted (gone.merged fun alive => born alive gone.despawned) told
      | publish name payload reports received =>
          by_cases here : name = home
          · subst here
            exact .finished (.buried _ (gone.buried told reports received))
          · refine .evicted ⟨gone.despawned, gone.unlisted, gone.evicted⟩ ?_
            simp only [View.published, Function.update_of_ne (Ne.symm here)]
            exact told
      | deliver name payload there noLate => exact .evicted (gone.delivered noLate) told

theorem Left.published (inv : Left home id v) {payload : Option SyncPayload} (reports : Reports v id home payload)
    (received : ∀ name, v.received name ≤ v.log.length) : Finished home id (v.published home payload) := by
  cases inv with
  | finished inv => exact inv.moves (.publish home payload reports received)
  | evicted gone told => exact .buried _ (gone.buried told reports received)

theorem Phase.merged (inv : Phase home id v) (despawned : v.despawned) {live : Prop} (dead : ¬live) :
    Left home id (v.merged home live) := by
  cases inv with
  | unseen unseen =>
      rcases unseen.merged with still | ⟨alive, -⟩
      · exact .finished (.unseen still despawned)
      · exact absurd alive dead
  | shared shared =>
      rcases shared.leaves dead despawned with unseen | ⟨gone, told⟩
      · exact .finished (.unseen unseen despawned)
      · exact .evicted gone told
  | left left => exact left.moves (.merge live (fun alive => absurd alive dead) fun _ _ => despawned)

theorem Phase.moves {after : View} (inv : Phase home id v) (moves : Moves home id v after) : Phase home id after := by
  cases inv with
  | left inv => exact .left (inv.moves moves)
  | unseen inv =>
      cases moves with
      | call despawned stays => exact .unseen ⟨inv.nobody, inv.unlisted, inv.silent⟩
      | elsewhere => exact .unseen inv
      | merge live born _ =>
          rcases inv.merged with still | ⟨-, shared⟩
          · exact .unseen still
          · exact .shared shared
      | publish name payload reports received => exact .unseen (inv.published reports)
      | deliver name payload there noLate => exact .unseen (inv.delivered (List.mem_of_getElem? there))
  | shared inv =>
      cases moves with
      | call despawned stays => exact .shared ⟨inv.listed, inv.held, inv.kept, inv.noTomb, inv.secret⟩
      | elsewhere => exact .shared inv
      | merge live born dies =>
          by_cases alive : live
          · exact .shared (inv.stays alive)
          · exact .left (Phase.merged (.shared inv) (dies inv.listed alive) alive)
      | publish name payload reports received => exact .shared (inv.published reports)
      | deliver name payload there noLate => exact .shared (inv.delivered (List.mem_of_getElem? there))

end Steps

/-! ## The pods of a cluster -/

section Pods
variable {members : List String} {home : ActorId → String} {c after : Spec.Cluster} {step : ClusterStep} {name : String}
  {id : ActorId}

structure Lodged (members : List String) (home : ActorId → String) (name : String) (pod : Pod) : Prop where
  consistent : Consistent pod.world.engine.runtime
  used : ∀ id ∈ pod.world.engine.runtime.actors, id ∈ pod.world.actorIds
  owned : ∀ id ∈ pod.world.actorIds, home id = name ∧ name ∈ members
  listed : ∀ id ∈ pod.prevLocalIds, id ∈ pod.world.actorIds

structure Housed (members : List String) (home : ActorId → String) (c : Spec.Cluster) : Prop where
  lodged : ∀ name, Lodged members home name (c.pods name)
  received : ∀ name, (c.pods name).received ≤ c.log.length

theorem housed_start (cfg : WorldConfig) : Housed members home (.start cfg) := by
  refine ⟨fun _ => ⟨consistent_new cfg, ?_, ?_, ?_⟩, fun _ => le_rfl⟩
  · exact fun id live => absurd live (AList.notMem_empty id)
  · exact fun id used => absurd used List.not_mem_nil
  · exact fun id listed => absurd listed (AList.notMem_empty id)

theorem Housed.set (inv : Housed members home c) {name : String} {pod : Pod} {log : List SyncPayload}
    (lodged : Lodged members home name pod) (received : pod.received ≤ log.length) (longer : c.log.length ≤ log.length) :
    Housed members home { c.set name pod with log } := by
  constructor
  · refine (Function.forall_update_iff c.pods (Lodged members home)).mpr ⟨lodged, ?_⟩
    exact fun other _ => inv.lodged other
  · refine (Function.forall_update_iff c.pods fun _ pod => pod.received ≤ log.length).mpr ⟨received, ?_⟩
    exact fun other _ => (inv.received other).trans longer

theorem Lodged.call {name : String} {pod : Pod} (inv : Lodged members home name pod) {call : EngineCall}
    (member : name ∈ members) (distinct : pod.world.Distinct call) (own : ∀ spec ∈ call.spawned, home spec.id = name) :
    Lodged members home name { pod with world := pod.world.next call } := by
  have grown {id : ActorId} (used : id ∈ pod.world.actorIds) : id ∈ (pod.world.next call).actorIds :=
    List.mem_append_right _ used
  refine ⟨consistent_call call inv.consistent ?_, ?_, ?_, fun id listed => grown (inv.listed id listed)⟩
  · exact fun spec spawned live => distinct spec spawned (inv.used spec.id live)
  · intro id live
    rcases mem_call call live with old | ⟨spec, spawned, rfl⟩
    · exact grown (inv.used id old)
    · exact List.mem_append_left _ (Option.mem_toList.mpr (Option.mem_map_of_mem _ spawned))
  · intro id used
    cases List.mem_append.mp used with
    | inl new =>
        obtain ⟨spec, spawned, rfl⟩ := Option.mem_map.mp (Option.mem_toList.mp new)
        exact ⟨own spec spawned, member⟩
    | inr old => exact inv.owned id old

theorem Housed.next (inv : Housed members home c) (proper : Cluster.Proper members home c step)
    (moved : c.next step = some after) : Housed members home after := by
  cases step with
  | call name call =>
      cases moved
      obtain ⟨member, distinct, own⟩ := proper
      exact inv.set ((inv.lodged name).call member distinct own) (inv.received name) le_rfl
  | merge name ord =>
      cases moved
      have before := inv.lodged name
      refine inv.set ⟨before.consistent, before.used, before.owned, fun id listed => ?_⟩ (inv.received name) le_rfl
      exact before.used id ((mem_fullSnapshot before.consistent).mp (mem_idsOf.mp listed))
  | publish name ord =>
      cases moved
      have before := inv.lodged name
      have longer (more : List SyncPayload) : c.log.length ≤ (c.log ++ more).length := by simp
      exact inv.set ⟨before.consistent, before.used, before.owned, before.listed⟩
        ((inv.received name).trans (longer _)) (longer _)
  | deliver name =>
      obtain ⟨payload, there, rfl⟩ := Option.map_eq_some_iff.mp moved
      have before := inv.lodged name
      exact inv.set ⟨before.consistent, before.used, before.owned, before.listed⟩
        (List.getElem?_eq_some_iff.mp there).1 le_rfl

/-! ## Steps of the cluster are moves of the view -/

def view (home : ActorId → String) (id : ActorId) (c : Spec.Cluster) : View where
  holds name := id ∈ (c.pods name).snapshot
  told name := id ∈ (c.pods name).publisher.prev
  listed := id ∈ (c.pods (home id)).prevLocalIds
  despawned := Cluster.Despawned home c id
  received name := (c.pods name).received
  log := c.log

theorem view_update {α : Type} (f : Pod → α) (c : Spec.Cluster) (name : String) (pod : Pod) :
    (fun other => f ((c.set name pod).pods other)) = Function.update (fun other => f (c.pods other)) name (f pod) := by
  funext other
  by_cases here : other = name
  · subst here
    simp [Cluster.set]
  · simp [Cluster.set, Function.update_of_ne here]

theorem pods_same {α : Type} (f : Pod → α) (c : Spec.Cluster) (name other : String) {pod : Pod}
    (same : f pod = f (c.pods name)) : f ((c.set name pod).pods other) = f (c.pods other) := by
  by_cases here : other = name
  · subst here
    simp only [Cluster.set, Function.update_self]
    exact same
  · simp only [Cluster.set, Function.update_of_ne here]

theorem reports_publish (id : ActorId) (ord : Order) (name : String) :
    Reports (view home id c) id name
      ((c.pods name).publisher.publish ord name (c.pods name).snapshot ⟨true, true, true⟩).1 := by
  rw [publish_connected _ _ rfl]
  refine ⟨?_, ?_, ?_, ?_⟩
  · intro payload sent
    simp only [Option.mem_def] at sent
    split_ifs at sent
    cases sent
    rfl
  · intro payload sent adds
    simp only [Option.mem_def] at sent
    split_ifs at sent
    cases sent
    obtain ⟨s, changed, rfl⟩ := adds
    exact KeyedMap.mem_iff.mpr ⟨s, (mem_updatesOf.mp changed).1⟩
  · intro payload sent
    simp only [Option.mem_def] at sent
    split_ifs at sent
    cases sent
    exact mem_removedOf
  · intro told lost
    have gone : id ∈ removedOf ord (c.pods name).publisher.prev (c.pods name).snapshot := mem_removedOf.mpr ⟨told, lost⟩
    have something : (removedOf ord (c.pods name).publisher.prev (c.pods name).snapshot).isEmpty = false := by
      rw [← Bool.not_eq_true, List.isEmpty_iff]
      exact List.ne_nil_of_mem gone
    simp [something]

theorem holds_receive (id : ActorId) (name : String) (snapshot : SharedSnapshot) (payload : SyncPayload) :
    (id ∈ receive name snapshot payload) =
      if payload.podId = name then id ∈ snapshot else id ∈ snapshot ∧ id ∉ payload.removed ∨ Adds payload id := by
  unfold receive
  by_cases own : payload.podId = name
  · rw [if_neg (not_not_intro own), if_pos own]
  · rw [if_pos own, if_neg own]
    exact propext mem_applyRemoteDelta

theorem despawned_next {pod : Pod} {call : EngineCall} (distinct : pod.world.Distinct call)
    {id : ActorId} (used : id ∈ pod.world.actorIds)
    (gone : id ∉ pod.world.engine.runtime.actors) :
    id ∈ (pod.world.next call).actorIds ∧ id ∉ (pod.world.next call).engine.runtime.actors := by
  refine ⟨List.mem_append_right _ used, fun live => ?_⟩
  rcases mem_call call live with old | ⟨spec, spawned, rfl⟩
  · exact gone old
  · exact distinct spec spawned used

def merged (pod : Pod) (ord : Order) : Pod :=
  let (snapshot, prevLocalIds) := mergeLocal pod.snapshot pod.prevLocalIds (pod.world.engine.fullSnapshot ord)
  { pod with snapshot, prevLocalIds }

theorem view_merge (inv : Lodged members home name (c.pods name)) (ord : Order) (mine : home id = name) :
    view home id (c.set name (merged (c.pods name) ord)) =
      (view home id c).merged name (id ∈ (c.pods name).world.engine.runtime.actors) := by
  have live : (∃ s ∈ (c.pods name).world.engine.fullSnapshot ord, s.id = id) ↔
      id ∈ (c.pods name).world.engine.runtime.actors := mem_fullSnapshot inv.consistent
  subst mine
  apply View.ext
  · refine (view_update (fun pod => id ∈ pod.snapshot) c (home id) _).trans ?_
    exact congrArg (Function.update _ _) (propext (mem_mergeLocal.trans (or_congr_left live)))
  · exact funext fun other => pods_same (fun pod => id ∈ pod.publisher.prev) c (home id) other rfl
  · refine (congrFun (view_update (fun pod => id ∈ pod.prevLocalIds) c (home id) _) (home id)).trans ?_
    rw [Function.update_self]
    exact propext (mem_idsOf.trans live)
  · exact pods_same (fun pod => id ∈ pod.world.actorIds ∧ id ∉ pod.world.engine.runtime.actors) c _ _ rfl
  · exact funext fun other => pods_same Pod.received c (home id) other rfl
  · rfl

theorem view_merge_elsewhere (inv : Lodged members home name (c.pods name)) (ord : Order) (foreign : home id ≠ name) :
    view home id (c.set name (merged (c.pods name) ord)) = view home id c := by
  have absent : id ∉ (c.pods name).world.engine.runtime.actors :=
    fun alive => foreign (inv.owned id (inv.used id alive)).1
  have unlisted : id ∉ (c.pods name).prevLocalIds := fun listed => foreign (inv.owned id (inv.listed id listed)).1
  apply View.ext
  · refine funext fun other => pods_same (fun pod => id ∈ pod.snapshot) c name other ?_
    refine propext (mem_mergeLocal.trans ?_)
    rw [mem_fullSnapshot inv.consistent]
    simp [absent, unlisted]
  · exact funext fun other => pods_same (fun pod => id ∈ pod.publisher.prev) c name other rfl
  · simp only [view, Cluster.set, Function.update_of_ne foreign]
  · simp only [view, Cluster.Despawned, Cluster.set, Function.update_of_ne foreign]
  · exact funext fun other => pods_same Pod.received c name other rfl
  · rfl

theorem view_publish (c : Spec.Cluster) (name : String) (ord : Order) (id : ActorId) :
    let sent := (c.pods name).publisher.publish ord name (c.pods name).snapshot ⟨true, true, true⟩
    view home id { c.set name { c.pods name with publisher := sent.2 } with log := c.log ++ sent.1.toList } =
      (view home id c).published name sent.1 := by
  intro sent
  apply View.ext
  · exact funext fun other => pods_same (fun pod => id ∈ pod.snapshot) c name other rfl
  · refine (view_update (fun pod => id ∈ pod.publisher.prev) c name _).trans ?_
    have prev : sent.2.prev = (c.pods name).snapshot := by rw [show sent = _ from publish_connected _ _ rfl]
    refine congrArg (Function.update _ name) ?_
    exact congrArg (fun snap : SharedSnapshot => id ∈ snap) prev
  · exact pods_same (fun pod => id ∈ pod.prevLocalIds) c name (home id) rfl
  · exact pods_same (fun pod => id ∈ pod.world.actorIds ∧ id ∉ pod.world.engine.runtime.actors) c name (home id) rfl
  · exact funext fun other => pods_same Pod.received c name other rfl
  · rfl

theorem view_deliver (c : Spec.Cluster) (name : String) (payload : SyncPayload) (id : ActorId) :
    view home id (c.set name
        { c.pods name with
          snapshot := receive name (c.pods name).snapshot payload
          received := (c.pods name).received + 1 }) = (view home id c).delivered id name payload := by
  apply View.ext
  · refine (view_update (fun pod => id ∈ pod.snapshot) c name _).trans ?_
    exact congrArg (Function.update _ _) (holds_receive id name (c.pods name).snapshot payload)
  · exact funext fun other => pods_same (fun pod => id ∈ pod.publisher.prev) c name other rfl
  · exact pods_same (fun pod => id ∈ pod.prevLocalIds) c name (home id) rfl
  · exact pods_same (fun pod => id ∈ pod.world.actorIds ∧ id ∉ pod.world.engine.runtime.actors) c name (home id) rfl
  · exact view_update Pod.received c name _
  · rfl

theorem view_call (c : Spec.Cluster) (name : String) (call : EngineCall) (id : ActorId) :
    view home id (c.set name { c.pods name with world := (c.pods name).world.next call }) =
      ⟨(view home id c).holds, (view home id c).told, (view home id c).listed,
        Cluster.Despawned home (c.set name { c.pods name with world := (c.pods name).world.next call }) id,
        (view home id c).received, c.log⟩ := by
  apply View.ext
  · exact funext fun other => pods_same (fun pod => id ∈ pod.snapshot) c name other rfl
  · exact funext fun other => pods_same (fun pod => id ∈ pod.publisher.prev) c name other rfl
  · exact pods_same (fun pod => id ∈ pod.prevLocalIds) c name (home id) rfl
  · rfl
  · exact funext fun other => pods_same Pod.received c name other rfl
  · rfl

theorem Housed.moves (inv : Housed members home c) (proper : Cluster.Proper members home c step)
    (timely : Cluster.NoLateEcho home c step) (moved : c.next step = some after) (id : ActorId) :
    Moves (home id) id (view home id c) (view home id after) := by
  cases step with
  | call name call =>
      cases moved
      rw [view_call]
      refine .call _ fun despawned => ?_
      obtain ⟨-, distinct, -⟩ := proper
      unfold Cluster.Despawned
      by_cases here : home id = name
      · subst here
        simp only [Cluster.set, Function.update_self]
        exact despawned_next distinct despawned.1 despawned.2
      · simp only [Cluster.set, Function.update_of_ne here]
        exact despawned
  | merge name ord =>
      cases moved
      have before := inv.lodged name
      change Moves _ id _ (view home id (c.set name (merged (c.pods name) ord)))
      by_cases mine : home id = name
      · rw [view_merge before ord mine]
        subst mine
        refine .merge _ (fun alive despawned => despawned.2 alive) fun listed dead => ?_
        exact ⟨before.listed id listed, dead⟩
      · rw [view_merge_elsewhere before ord mine]
        exact .elsewhere
  | publish name ord =>
      cases moved
      have moves : Moves (home id) id (view home id c) _ := .publish name _ (reports_publish id ord name) inv.received
      rw [← view_publish] at moves
      exact moves
  | deliver name =>
      obtain ⟨payload, there, rfl⟩ := Option.map_eq_some_iff.mp moved
      rw [view_deliver]
      refine .deliver name payload there fun own foreign adds => ?_
      obtain ⟨s, updated, rfl⟩ := adds
      subst own
      exact timely payload there foreign s updated rfl

/-! ## Whole runs -/

def Timely (members : List String) (home : ActorId → String) (c : Spec.Cluster) (step : ClusterStep) : Prop :=
  Cluster.Proper members home c step ∧ Cluster.NoLateEcho home c step

variable {steps : List ClusterStep}

theorem finished_run (inv : Housed members home c) (finished : Finished (home id) id (view home id c))
    (respects : Transition.Respects (Timely members home) Cluster.next c steps)
    (ran : Transition.run Cluster.next c steps = some after) : Finished (home id) id (view home id after) := by
  induction steps generalizing c with
  | nil =>
      cases ran
      exact finished
  | cons step rest ih =>
      simp only [Transition.run, Option.bind_eq_some_iff] at ran
      obtain ⟨middle, moved, ran⟩ := ran
      rw [Transition.Respects, moved] at respects
      obtain ⟨⟨proper, timely⟩, respects⟩ := respects
      exact ih (inv.next proper moved) (finished.moves (inv.moves proper timely moved id)) respects ran

theorem left_run {ord : Order} (inv : Housed members home c) (left : Left (home id) id (view home id c))
    (respects : Transition.Respects (Timely members home) Cluster.next c steps)
    (ran : Transition.run Cluster.next c steps = some after)
    (published : [.publish (home id) ord].Sublist steps) : Finished (home id) id (view home id after) := by
  induction steps generalizing c with
  | nil => cases published
  | cons step rest ih =>
      simp only [Transition.run, Option.bind_eq_some_iff] at ran
      obtain ⟨middle, moved, ran⟩ := ran
      rw [Transition.Respects, moved] at respects
      obtain ⟨⟨proper, timely⟩, respects⟩ := respects
      cases published with
      | cons _ later =>
          exact ih (inv.next proper moved) (left.moves (inv.moves proper timely moved id)) respects ran later
      | cons_cons _ _ =>
          have finished := left.published (reports_publish id ord (home id)) inv.received
          rw [← view_publish] at finished
          refine finished_run (inv.next proper moved) ?_ respects ran
          cases moved
          exact finished

theorem phase_run {ord ord' : Order} (inv : Housed members home c) (phase : Phase (home id) id (view home id c))
    (despawned : Cluster.Despawned home c id)
    (respects : Transition.Respects (Timely members home) Cluster.next c steps)
    (ran : Transition.run Cluster.next c steps = some after)
    (published : [.merge (home id) ord, .publish (home id) ord'].Sublist steps) :
    Finished (home id) id (view home id after) := by
  induction steps generalizing c with
  | nil => cases published
  | cons step rest ih =>
      simp only [Transition.run, Option.bind_eq_some_iff] at ran
      obtain ⟨middle, moved, ran⟩ := ran
      rw [Transition.Respects, moved] at respects
      obtain ⟨⟨proper, timely⟩, respects⟩ := respects
      have moves := inv.moves proper timely moved id
      cases published with
      | cons _ later => exact ih (inv.next proper moved) (phase.moves moves) (moves.despawned despawned) respects ran later
      | cons_cons _ later =>
          have left := phase.merged despawned despawned.2
          rw [← view_merge (inv.lodged _) ord rfl] at left
          refine left_run (inv.next proper moved) ?_ respects ran later
          cases moved
          exact left

theorem Finished.forgotten {v : View} {home : String} (inv : Finished home id v) (member : v.received home = v.log.length)
    (received : v.received name = v.log.length) : ¬v.holds name := by
  cases inv with
  | unseen unseen _ => exact (unseen.nobody name).1
  | buried grave buried =>
      obtain ⟨payload, there, -⟩ := buried.tomb
      apply buried.cleared
      rw [received]
      exact (List.getElem?_eq_some_iff.mp there).1
  | echoed echoed =>
      obtain ⟨k, payload, ahead, there, -⟩ := echoed.echo
      have inside := (List.getElem?_eq_some_iff.mp there).1
      omega

def Orderly (members : List String) (home : ActorId → String) (c : Spec.Cluster) : Prop :=
  Housed members home c ∧ ∀ id, Phase (home id) id (view home id c)

theorem orderly_reachable {cfg : WorldConfig} (reachable : Cluster.Reachable cfg (Timely members home) c) :
    Orderly members home c := by
  refine reachable.invariant ?_ ?_
  · intro c first
    subst first
    refine ⟨housed_start cfg, fun id => .unseen ⟨fun name => ⟨?_, ?_⟩, ?_, ?_⟩⟩
    · exact KeyedMap.not_mem_empty id
    · exact KeyedMap.not_mem_empty id
    · exact AList.notMem_empty id
    · intro payload member
      exact absurd member List.not_mem_nil
  · intro c step after inv timely moved
    exact ⟨inv.1.next timely.1 moved, fun id => (inv.2 id).moves (inv.1.moves timely.1 timely.2 moved id)⟩

theorem despawned_actors_disappear (cfg : WorldConfig) (members : List String) (home : ActorId → String)
    (c : Spec.Cluster)
    (reachable : Cluster.Reachable cfg
      (fun c step => Cluster.Proper members home c step ∧ Cluster.NoLateEcho home c step) c) :
    c.Forgets members home fun c step => Cluster.Proper members home c step ∧ Cluster.NoLateEcho home c step := by
  intro steps after respects ran settled id despawned name member
  obtain ⟨housed, phase⟩ := orderly_reachable reachable
  have mine := (housed.lodged (home id)).owned id despawned.1
  obtain ⟨ord, ord', published⟩ := settled.published (home id) mine.2
  have finished := phase_run housed (phase id) despawned respects ran published
  exact finished.forgotten (settled.received (home id) mine.2) (settled.received name member)

end Pods

/-! ## Two pods -/

def pair : List String := ["pod-a", "pod-b"]

def soleHome : ActorId → String := fun _ => "pod-a"

def shareOne : List ClusterStep :=
  [.call "pod-a" (.spawnActorStandalone (villager 1 ⟨5, 5⟩)), .merge "pod-a" .stored, .publish "pod-a" .stored,
    .deliver "pod-b"]

theorem reachable_after {cfg : WorldConfig} {allowed : Spec.Cluster → ClusterStep → Prop} {steps : List ClusterStep}
    (respects : Transition.Respects allowed Cluster.next (.start cfg) steps)
    (runs : (Transition.run Cluster.next (.start cfg) steps).isSome) :
    Cluster.Reachable cfg allowed (Cluster.after cfg steps) :=
  Transition.Reachable.getD_run (.start rfl) respects runs

-- the second pod still has the actor when it is despawned
theorem despawned_actor_disappears_from_pair :
    Cluster.Despawned soleHome (.after .default (shareOne ++ [.call "pod-a" (.despawnActor ⟨1⟩)])) ⟨1⟩ ∧
      (⟨1⟩ : ActorId) ∈
        ((Cluster.after .default (shareOne ++ [.call "pod-a" (.despawnActor ⟨1⟩)])).pods "pod-b").snapshot ∧
      (Cluster.after .default (shareOne ++ [.call "pod-a" (.despawnActor ⟨1⟩)])).Forgets pair soleHome
        fun c step => Cluster.Proper pair soleHome c step ∧ Cluster.NoLateEcho soleHome c step := by
  refine ⟨?_, by decide +kernel, despawned_actors_disappear .default pair soleHome _ (reachable_after ?_ ?_)⟩
  · unfold Cluster.Despawned
    decide +kernel
  · decide +kernel
  · decide +kernel

def echoOne : List ClusterStep := shareOne ++ [.publish "pod-b" .stored, .call "pod-a" (.despawnActor ⟨1⟩)]

def settle : List ClusterStep :=
  [.merge "pod-a" .stored, .deliver "pod-a", .deliver "pod-a", .publish "pod-a" .stored, .merge "pod-b" .stored,
    .publish "pod-b" .stored, .deliver "pod-b"]

theorem settles_echo : (Transition.run Cluster.next (.after .default echoOne) settle).isSome := by decide +kernel

-- the echo of the second pod comes back after the first pod has evicted the actor
theorem echo_revives_despawned : Cluster.Reachable .default (Cluster.Proper pair soleHome) (.after .default echoOne) ∧
    ¬(Cluster.after .default echoOne).Forgets pair soleHome (Cluster.Proper pair soleHome) := by
  refine ⟨reachable_after (by decide +kernel) (by decide +kernel), fun forgets => ?_⟩
  have settled : Cluster.Settled pair settle (Option.get _ settles_echo) := by
    refine ⟨fun name member => ⟨.stored, .stored, ?_⟩, by decide +kernel⟩
    simp only [pair, List.mem_cons, List.not_mem_nil, or_false] at member
    rcases member with rfl | rfl
    · exact .cons_cons _ (.cons _ (.cons _ (.cons_cons _ (List.nil_sublist _))))
    · exact .cons _ (.cons _ (.cons _ (.cons _ (.cons_cons _ (.cons_cons _ (List.nil_sublist _))))))
  have despawned : Cluster.Despawned soleHome (.after .default echoOne) ⟨1⟩ := by
    unfold Cluster.Despawned
    decide +kernel
  have forgotten := forgets settle _ (by decide +kernel) (Option.some_get settles_echo).symm settled ⟨1⟩ despawned
    "pod-a" (by decide)
  exact forgotten (by decide +kernel)

end LiveWorld.Proof.Cluster

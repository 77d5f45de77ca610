import LiveWorld.Proof.AntiCheat
import LiveWorld.Proof.Engine.Muted
import LiveWorld.Proof.Responses
import LiveWorld.Spec.Bookkeeping

namespace LiveWorld.Proof.Agency
open HashTable Spec Agency
variable {ahash : Hasher} {s s' : Spec.Agency} {step : AgencyStep}

/-! ## The channel -/

theorem pending_sent {agent : AgentName} {directive : WorldDirective} {rest : List WorldDirective}
    (waiting : s.pending agent = directive :: rest) (other : AgentName) :
    s.pending other = (if other = agent then [directive] else []) ++ (s.sent agent).pending other := by
  cases agent with
  | director =>
      cases other with
      | director =>
          simp only [Agency.pending, DirectorAgent.pending, Agency.sent, DirectorAgent.sent] at waiting ⊢
          cases phase : s.director.phase with
          | sending _ =>
              rw [phase] at waiting
              cases waiting
              rfl
          | _ => simp [phase] at waiting
      | _ => rfl
  | economy =>
      cases other with
      | economy =>
          change s.economy.pending = _ at waiting
          change s.economy.pending = [directive] ++ s.economy.pending.tail
          rw [waiting]
          rfl
      | _ => rfl
  | antiCheat =>
      cases other with
      | antiCheat =>
          change s.antiCheat.pending = _ at waiting
          change s.antiCheat.pending = [directive] ++ s.antiCheat.pending.tail
          rw [waiting]
          rfl
      | _ => rfl

/-- An agent that has nothing left to send decides on what it sends next. -/
theorem entered_conclude {before after : Spec.Agency} {news : List WorldDirective} (agent : AgentName)
    (inv : ∀ other, before.decided other = enteredBy other before.entered ++ before.pending other)
    (idle : before.pending agent = []) (others : ∀ other, other ≠ agent → after.pending other = before.pending other)
    (new : after.pending agent = news) (decided : after.decided = before.decided)
    (entered : after.entered = before.entered) (other : AgentName) :
    (after.conclude agent news).decided other =
      enteredBy other (after.conclude agent news).entered ++ (after.conclude agent news).pending other := by
  have same : (after.conclude agent news).pending other = after.pending other := by cases other <;> rfl
  rw [same]
  simp only [conclude, Function.update_apply, decided, entered]
  split_ifs with mine
  · rw [mine, inv agent, idle, new, List.append_nil]
  · rw [others other mine, inv other]

theorem enteredBy_concat (agent sender : AgentName) (entered : List (AgentName × WorldDirective))
    (directive : WorldDirective) :
    enteredBy agent (entered ++ [(sender, directive)]) =
      enteredBy agent entered ++ if agent = sender then [directive] else [] := by
  rw [enteredBy, List.filter_append, List.map_append]
  congr 1
  by_cases same : agent = sender
  · simp [same]
  · simp [same, show ¬sender = agent from fun back => same back.symm]

theorem orderly_start (engine : WorldEngine) (maxSpeed : Rat) : Orderly (start engine maxSpeed) where
  bounded := Nat.zero_le _
  applied := rfl
  entered agent := by cases agent <;> rfl
  adjusted := rfl

theorem orderly_next (inv : Orderly s) (moved : s.next ahash step = some s') : Orderly s' := by
  cases step with
  | call call =>
      cases moved
      exact ⟨inv.bounded, inv.applied, inv.entered, inv.adjusted⟩
  | share snapshot =>
      cases moved
      exact ⟨inv.bounded, inv.applied, inv.entered, inv.adjusted⟩
  | wakeDirector =>
      simp only [Agency.next] at moved
      split at moved
      case h_2 => cases moved
      case h_1 phase =>
        cases moved
        refine ⟨inv.bounded, inv.applied, fun agent => ?_, inv.adjusted⟩
        have before := inv.entered agent
        cases agent with
        | director =>
            simp only [Agency.pending, DirectorAgent.pending, phase] at before
            exact before
        | _ => exact before
  | answerDirector backend =>
      simp only [Agency.next] at moved
      split at moved
      case h_2 => cases moved
      case h_1 req phase =>
        cases moved
        have idle : s.pending .director = [] := by simp only [Agency.pending, DirectorAgent.pending, phase]
        refine ⟨inv.bounded, inv.applied, ?_, inv.adjusted⟩
        apply entered_conclude .director inv.entered idle
        case others =>
          intro other differ
          cases other with
          | director => exact absurd rfl differ
          | _ => rfl
        all_goals rfl
  | wakeEconomy =>
      simp only [Agency.next] at moved
      split at moved
      case h_2 => cases moved
      case h_1 idle =>
        cases moved
        refine ⟨inv.bounded, inv.applied, ?_, ?_⟩
        · apply entered_conclude .economy inv.entered idle
          case others =>
            intro other differ
            cases other with
            | economy => exact absurd rfl differ
            | _ => rfl
          all_goals rfl
        · change s.economy.decisionCount + 1 = _
          rw [inv.adjusted, ← Machine.ofNat_succ]
          simp [conclude, EconomyAgent.wake]
  | wakeAntiCheat ord =>
      simp only [Agency.next] at moved
      split at moved
      case h_2 => cases moved
      case h_1 idle =>
        cases moved
        refine ⟨inv.bounded, inv.applied, ?_, inv.adjusted⟩
        apply entered_conclude .antiCheat inv.entered idle
        case others =>
          intro other differ
          cases other with
          | antiCheat => exact absurd rfl differ
          | _ => rfl
        all_goals rfl
  | send agent =>
      simp only [Agency.next] at moved
      split at moved
      case h_2 => cases moved
      case h_1 directive rest waiting =>
        split_ifs at moved with room
        cases moved
        refine ⟨?_, ?_, ?_, ?_⟩
        · rw [List.length_append]
          exact room
        · rw [List.map_append, inv.applied, List.append_assoc]
          cases agent <;> rfl
        · intro other
          have before := inv.entered other
          rw [pending_sent waiting other] at before
          have same : (s.sent agent).decided = s.decided := by cases agent <;> rfl
          rw [enteredBy_concat, List.append_assoc, same, before]
          cases agent <;> cases other <;> rfl
        · have same : (s.sent agent).decided = s.decided := by cases agent <;> rfl
          have count : (s.sent agent).economy.decisionCount = s.economy.decisionCount := by cases agent <;> rfl
          rw [same, count]
          exact inv.adjusted
  | process =>
      simp only [Agency.next] at moved
      split at moved
      case h_2 => cases moved
      case h_1 directive rest channel =>
        cases moved
        refine ⟨?_, ?_, inv.entered, inv.adjusted⟩
        · have bounded := inv.bounded
          rw [channel, List.length_cons] at bounded
          exact Nat.le_of_succ_le bounded
        · rw [inv.applied, channel, List.append_assoc]
          rfl

theorem directives_keep_order (ahash : Hasher) (engine : WorldEngine) (maxSpeed : Rat) {s : Spec.Agency}
    (reachable : Agency.Reachable ahash engine maxSpeed s) : Orderly s := by
  apply reachable.invariant
  · intro s first
    subst first
    exact orderly_start engine maxSpeed
  · intro s step after inv _ moved
    exact orderly_next inv moved

def storm : Backend := fun req => .ok ⟨"EVENT A great storm is coming ", req.model, 12⟩

/-- One decision of the director and one of the economy agent, who is quicker to send. -/
def townCrier (backend : Backend) : List AgencyStep :=
  [.call (.spawnActorForSession .stored (villager 1 ⟨5, 5⟩) ⟨1⟩), .wakeDirector, .wakeEconomy, .answerDirector backend,
    .send .economy, .process]

def crying (steps : List AgencyStep) : Spec.Agency :=
  (Transition.run (Agency.next fun _ => 0) (start (WorldEngine.new .default) 200) steps).getD
    (start (WorldEngine.new .default) 200)

theorem ran_crying {steps : List AgencyStep}
    (runs : (Transition.run (Agency.next fun _ => 0) (start (WorldEngine.new .default) 200) steps).isSome) :
    Transition.run (Agency.next fun _ => 0) (start (WorldEngine.new .default) 200) steps = some (crying steps) := by
  obtain ⟨last, ran⟩ := Option.isSome_iff_exists.mp runs
  rw [crying, ran]
  rfl

theorem directives_keep_order_crying :
    Orderly (crying (townCrier storm ++ [.send .director, .process])) ∧
      (crying (townCrier storm ++ [.send .director, .process])).applied =
        [.EconomyAdjust "gold" 10, .NarrativeEvent "A great storm is coming"] := by
  refine ⟨directives_keep_order (fun _ => 0) (WorldEngine.new .default) 200 ?_, by decide +kernel⟩
  exact Transition.Reachable.run (.start rfl) (Transition.respects_of_forall (fun _ _ => trivial) _ _)
    (ran_crying (by decide +kernel))

/-! ## Directives that do not touch the world -/

/-- Whoever decided on it. -/
def Decided (Q : WorldDirective → Prop) (s : Spec.Agency) : Prop := ∀ agent, ∀ directive ∈ s.decided agent, Q directive

theorem Decided.channel {Q : WorldDirective → Prop} (decided : Decided Q s) (inv : Orderly s) :
    ∀ directive ∈ s.channel, Q directive := by
  intro directive waiting
  have entered : directive ∈ s.entered.map Prod.snd := by
    rw [inv.applied]
    exact List.mem_append_right _ waiting
  obtain ⟨⟨agent, _⟩, member, rfl⟩ := List.mem_map.mp entered
  apply decided agent
  rw [inv.entered agent]
  apply List.mem_append_left
  exact List.mem_map.mpr ⟨_, List.mem_filter.mpr ⟨member, decide_eq_true rfl⟩, rfl⟩

theorem Decided.conclude {Q : WorldDirective → Prop} {after : Spec.Agency} (decided : Decided Q s) (agent : AgentName)
    (same : after.decided = s.decided) {news : List WorldDirective} (new : ∀ directive ∈ news, Q directive) :
    Decided Q (after.conclude agent news) := by
  intro other directive member
  simp only [Agency.conclude, Function.update_apply, same] at member
  split_ifs at member with mine
  · rcases List.mem_append.mp member with old | recent
    · exact decided agent directive old
    · exact new directive recent
  · exact decided other directive member

theorem wake_flags (agent : AntiCheatAgent) (ord : Order) (snapshot : SharedSnapshot) :
    ∀ directive ∈ (agent.wake ord snapshot).pending, ∃ id reason, directive = .FlagActor id reason := by
  intro directive member
  rw [AntiCheat.pending_wake] at member
  obtain ⟨state, _, flagged⟩ := List.mem_filterMap.mp member
  obtain ⟨_, _, _, same⟩ := AntiCheat.violation_eq_some.mp flagged
  exact ⟨_, _, same⟩

/-- Adjustments and flags apart, a directive comes from an answer to the director. -/
theorem Decided.next {Q : WorldDirective → Prop} (decided : Decided Q s) (moved : s.next ahash step = some s')
    (adjusts : ∀ resource delta, Q (.EconomyAdjust resource delta)) (flags : ∀ id reason, Q (.FlagActor id reason))
    (heard : ∀ backend req, step = .answerDirector backend → s.director.phase = .asking req →
      ∀ directive ∈ (s.director.hear (s.cache.complete ahash backend req).result).pending, Q directive) :
    Decided Q s' := by
  cases step with
  | call call =>
      cases moved
      exact decided
  | share snapshot =>
      cases moved
      exact decided
  | wakeDirector =>
      simp only [Agency.next] at moved
      split at moved <;> cases moved
      exact decided
  | answerDirector backend =>
      simp only [Agency.next] at moved
      split at moved
      case h_2 => cases moved
      case h_1 req phase =>
        cases moved
        exact decided.conclude .director rfl (heard backend req rfl phase)
  | wakeEconomy =>
      simp only [Agency.next] at moved
      split at moved <;> cases moved
      apply decided.conclude .economy rfl
      intro directive member
      cases List.mem_singleton.mp member
      exact adjusts _ _
  | wakeAntiCheat ord =>
      simp only [Agency.next] at moved
      split at moved <;> cases moved
      apply decided.conclude .antiCheat rfl
      intro directive member
      obtain ⟨id, reason, rfl⟩ := wake_flags _ _ _ directive member
      exact flags id reason
  | send agent =>
      simp only [Agency.next] at moved
      split at moved
      case h_2 => cases moved
      case h_1 =>
        split_ifs at moved
        cases moved
        cases agent <;> exact decided
  | process =>
      simp only [Agency.next] at moved
      split at moved <;> cases moved
      exact decided

theorem hear_pending {director : DirectorAgent} {resp : Except LlmError LlmResponse} {directive : WorldDirective}
    (member : directive ∈ (director.hear resp).pending) :
    ∃ r event, resp = .ok r ∧ stripPrefix "EVENT " r.text = some event ∧
      directive = .NarrativeEvent (trim event) := by
  cases resp with
  | error e => exact absurd member List.not_mem_nil
  | ok r =>
      simp only [DirectorAgent.hear, DirectorAgent.pending] at member
      cases stripped : stripPrefix "EVENT " r.text with
      | none =>
          rw [stripped] at member
          exact absurd member List.not_mem_nil
      | some event =>
          rw [stripped] at member
          exact ⟨r, event, rfl, stripped, List.mem_singleton.mp member⟩

/-! ## The world without agents -/

def Unforced (directive : WorldDirective) : Prop := ∀ id dest, directive ≠ .ForceMove id dest

/-- What is known of a run of the agents beside `plain`, an engine that only gets the other calls. -/
structure Beside (plain : WorldEngine) (s : Spec.Agency) : Prop where
  orderly : Orderly s
  unforced : Decided Unforced s
  same : SameButFrames s.engine plain

def plainNext (plain : WorldEngine) : AgencyStep → WorldEngine
  | .call call => call.apply plain
  | _ => plain

theorem foldl_callsOf (plain : WorldEngine) (steps : List AgencyStep) :
    (callsOf steps).foldl EngineCall.apply plain = steps.foldl plainNext plain := by
  induction steps generalizing plain with
  | nil => rfl
  | cons step rest ih => cases step <;> exact ih _

theorem next_engine (moved : s.next ahash step = some s') :
    (∃ call, step = .call call ∧ s'.engine = call.apply s.engine) ∨
    (∃ directive ∈ s.channel, step = .process ∧ s'.engine = s.engine.applyDirective directive) ∨
    ((∀ plain, plainNext plain step = plain) ∧ s'.engine = s.engine) := by
  cases step with
  | call call =>
      cases moved
      exact .inl ⟨call, rfl, rfl⟩
  | process =>
      simp only [Agency.next] at moved
      split at moved
      case h_2 => cases moved
      case h_1 directive rest channel =>
        cases moved
        exact .inr (.inl ⟨directive, channel ▸ List.mem_cons_self, rfl, rfl⟩)
  | send agent =>
      simp only [Agency.next] at moved
      split at moved
      case h_2 => cases moved
      case h_1 =>
        split_ifs at moved
        cases moved
        cases agent <;> exact .inr (.inr ⟨fun _ => rfl, rfl⟩)
  | share snapshot =>
      cases moved
      exact .inr (.inr ⟨fun _ => rfl, rfl⟩)
  | _ =>
      simp only [Agency.next] at moved
      split at moved <;> cases moved
      exact .inr (.inr ⟨fun _ => rfl, rfl⟩)

theorem sameButFrames_directive {engine plain : WorldEngine} (same : SameButFrames engine plain)
    {directive : WorldDirective} (unforced : Unforced directive) :
    SameButFrames (engine.applyDirective directive) plain := by
  refine ⟨?_, fun session => ?_⟩
  · rw [← same.world]
    cases directive with
    | ForceMove id dest => exact absurd rfl (unforced id dest)
    | _ => rfl
  · exact ((Engine.effected_applyDirective engine directive).mem_sessionQueues session).trans (same.sessions session)

theorem Beside.next {plain : WorldEngine} (inv : Beside plain s) (moved : s.next ahash step = some s') :
    Beside (plainNext plain step) s' := by
  refine ⟨orderly_next inv.orderly moved, ?_, ?_⟩
  · apply inv.unforced.next moved
    · intro resource delta id dest same
      cases same
    · intro actor reason id dest same
      cases same
    · intro backend req _ _ directive member id dest same
      obtain ⟨_, _, _, _, narrated⟩ := hear_pending member
      rw [narrated] at same
      cases same
  · rcases next_engine moved with ⟨call, rfl, after⟩ | ⟨directive, waiting, rfl, after⟩ | ⟨other, after⟩
    · rw [after]
      exact Engine.sameButFrames_call call inv.same
    · rw [after]
      exact sameButFrames_directive inv.same (inv.unforced.channel inv.orderly directive waiting)
    · rw [after, other]
      exact inv.same

theorem beside_run {plain : WorldEngine} (inv : Beside plain s) {steps : List AgencyStep}
    (ran : Transition.run (Agency.next ahash) s steps = some s') : Beside (steps.foldl plainNext plain) s' := by
  induction steps generalizing s plain with
  | nil =>
      cases ran
      exact inv
  | cons step rest ih =>
      obtain ⟨middle, moved, later⟩ := Option.bind_eq_some_iff.mp ran
      exact ih (inv.next moved) later

theorem agents_only_talk (ahash : Hasher) (engine : WorldEngine) (maxSpeed : Rat) (steps : List AgencyStep)
    (s : Spec.Agency) (ran : Transition.run (Agency.next ahash) (start engine maxSpeed) steps = some s) :
    SameButFrames s.engine ((callsOf steps).foldl EngineCall.apply engine) := by
  rw [foldl_callsOf]
  have first : Beside engine (start engine maxSpeed) := by
    refine ⟨orderly_start engine maxSpeed, ?_, Engine.sameButFrames_refl engine⟩
    intro agent directive member
    exact absurd member List.not_mem_nil
  exact (beside_run first ran).same

-- the session hears of the storm, and that is all
theorem agents_only_talk_of_storm :
    SameButFrames (crying (townCrier storm ++ [.send .director, .process])).engine
        ((callsOf (townCrier storm ++ [.send .director, .process])).foldl EngineCall.apply (WorldEngine.new .default)) ∧
      queueOf (crying (townCrier storm ++ [.send .director, .process])).engine ⟨1⟩ =
        [.WorldEvent "A great storm is coming"] := by
  refine ⟨?_, by decide +kernel⟩
  exact agents_only_talk (fun _ => 0) (WorldEngine.new .default) 200 _ _ (ran_crying (by decide +kernel))

/-! ## The world with a mock for a director -/

def Inert (directive : WorldDirective) : Prop := ∀ engine : WorldEngine, engine.applyDirective directive = engine

structure Silent (plain : WorldEngine) (s : Spec.Agency) : Prop where
  orderly : Orderly s
  inert : Decided Inert s
  cached : Responses.Holds Responses.Bracketed s.cache
  same : s.engine = plain

theorem Silent.next {plain : WorldEngine} (inv : Silent plain s) (mocked : Mocked step)
    (moved : s.next ahash step = some s') : Silent (plainNext plain step) s' := by
  refine ⟨orderly_next inv.orderly moved, ?_, ?_, ?_⟩
  · apply inv.inert.next moved
    · exact fun _ _ _ => rfl
    · exact fun _ _ _ => rfl
    · intro backend req answered _ directive member
      subst answered
      obtain ⟨response, rfl⟩ := mocked
      obtain ⟨r, event, heard, stripped, _⟩ := hear_pending member
      obtain ⟨rest, bracketed⟩ := (inv.cached.complete (fun resp => Responses.mock_bracketed _ req) ahash).1 r heard
      rw [Responses.stripPrefix_bracketed rfl (by decide) bracketed] at stripped
      cases stripped
  · cases step with
    | answerDirector backend =>
        obtain ⟨response, rfl⟩ := mocked
        simp only [Agency.next] at moved
        split at moved <;> cases moved
        exact (inv.cached.complete (fun resp => Responses.mock_bracketed _ _) ahash).2
    | send agent =>
        simp only [Agency.next] at moved
        split at moved
        case h_2 => cases moved
        case h_1 =>
          split_ifs at moved
          cases moved
          cases agent <;> exact inv.cached
    | call call =>
        cases moved
        exact inv.cached
    | share snapshot =>
        cases moved
        exact inv.cached
    | _ =>
        simp only [Agency.next] at moved
        split at moved <;> cases moved
        exact inv.cached
  · rcases next_engine moved with ⟨call, rfl, after⟩ | ⟨directive, waiting, rfl, after⟩ | ⟨other, after⟩
    · rw [after, inv.same]
      rfl
    · rw [after, inv.inert.channel inv.orderly directive waiting]
      exact inv.same
    · rw [after, other]
      exact inv.same

theorem silent_run {plain : WorldEngine} (inv : Silent plain s) {steps : List AgencyStep}
    (mocked : ∀ step ∈ steps, Mocked step) (ran : Transition.run (Agency.next ahash) s steps = some s') :
    Silent (steps.foldl plainNext plain) s' := by
  induction steps generalizing s plain with
  | nil =>
      cases ran
      exact inv
  | cons step rest ih =>
      obtain ⟨middle, moved, later⟩ := Option.bind_eq_some_iff.mp ran
      apply ih (inv.next (mocked step List.mem_cons_self) moved) _ later
      exact fun other member => mocked other (List.mem_cons_of_mem _ member)

theorem mock_agents_change_nothing (ahash : Hasher) (engine : WorldEngine) (maxSpeed : Rat) (steps : List AgencyStep)
    (mocked : ∀ step ∈ steps, Mocked step) (s : Spec.Agency)
    (ran : Transition.run (Agency.next ahash) (start engine maxSpeed) steps = some s) :
    s.engine = (callsOf steps).foldl EngineCall.apply engine := by
  rw [foldl_callsOf]
  have first : Silent engine (start engine maxSpeed) := by
    refine ⟨orderly_start engine maxSpeed, ?_, Responses.holds_new 256, rfl⟩
    intro agent directive member
    exact absurd member List.not_mem_nil
  exact (silent_run first mocked ran).same

def mockStorm : Backend := (MockLlm.new.withResponse "EVENT A great storm is coming").complete

theorem mock_storm_changes_nothing :
    (crying (townCrier mockStorm)).director.decisionCount = 1 ∧ (crying (townCrier mockStorm)).director.pending = [] ∧
      (crying (townCrier mockStorm)).engine =
        (callsOf (townCrier mockStorm)).foldl EngineCall.apply (WorldEngine.new .default) := by
  refine ⟨by decide +kernel, by decide +kernel, ?_⟩
  apply mock_agents_change_nothing (fun _ => 0) (WorldEngine.new .default) 200 _ _ _ (ran_crying (by decide +kernel))
  intro step member
  simp only [townCrier, List.mem_cons, List.not_mem_nil, or_false] at member
  rcases member with rfl | rfl | rfl | rfl | rfl | rfl
  case inr.inr.inr.inl => exact ⟨_, rfl⟩
  all_goals trivial

end LiveWorld.Proof.Agency

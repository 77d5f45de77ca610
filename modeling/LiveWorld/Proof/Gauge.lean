import LiveWorld.Proof.Gate
import LiveWorld.Spec.Gauge
import Mathlib.Tactic

/-!
# Where the gauge goes wrong

A handler counts itself in after the handshake. It counts itself out at the end of its session, but not when it
returns because of the authentication.
-/

namespace LiveWorld.Proof.Gauge
open Spec Handlers Connection
variable {crates : TokenCrates} {json : JsonCrate} {env : Env} {auth : AuthState} {conn : Connection}
variable {s : Handlers} {handler : Handler} {event : ConnectionEvent} {events rest : List ConnectionEvent}

/-! ## The events of one handler -/

def Silent (events : List ConnectionEvent) : Prop := .incWsConnections ∉ events ∧ .decWsConnections ∉ events

theorem silent_inbound (json : JsonCrate) (rate : RateLimiter) (frames : List Received) :
    Silent (inbound json rate frames) := by
  have dispatched (text : String) : dispatch json text ≠ .incWsConnections ∧ dispatch json text ≠ .decWsConnections := by
    unfold dispatch
    cases json.command text <;> simp
  have cons {first : ConnectionEvent} {later : List ConnectionEvent}
      (other : first ≠ .incWsConnections ∧ first ≠ .decWsConnections) (silent : Silent later) : Silent (first :: later) :=
    ⟨by simp [other.1.symm, silent.1], by simp [other.2.symm, silent.2]⟩
  have limited : ConnectionEvent.sendError 429 "Rate limit exceeded" ≠ .incWsConnections ∧
      ConnectionEvent.sendError 429 "Rate limit exceeded" ≠ .decWsConnections := by simp
  induction frames generalizing rate with
  | nil => exact ⟨List.not_mem_nil, List.not_mem_nil⟩
  | cons frame frames ih =>
      obtain ⟨now, item⟩ := frame
      cases item with
      | none => exact ⟨List.not_mem_nil, List.not_mem_nil⟩
      | some message =>
          cases message with
          | Text text =>
              simp only [inbound]
              split_ifs
              · exact cons limited (ih _)
              · exact cons (dispatched text) (ih _)
          | Binary bytes =>
              simp only [inbound]
              split_ifs
              · exact cons limited (ih _)
              · cases fromUtf8 bytes with
                | none => exact ih _
                | some text => exact cons (dispatched text) (ih _)
          | Close => exact ⟨List.not_mem_nil, List.not_mem_nil⟩
          | Ping payload | Pong payload | Frame raw => exact ih rate

/-- What a handler may still do, given whether it has counted itself in and out. -/
inductive Course : Bool → Bool → List ConnectionEvent → Prop
  | outside {events : List ConnectionEvent} : Silent events → Course false false events
  | arriving {events : List ConnectionEvent} : Course true false events →
      Course false false (.incWsConnections :: events)
  | leaking {events : List ConnectionEvent} : Silent events → Course true false events
  | served {before after : List ConnectionEvent} : Silent before → Silent after →
      Course true false (before ++ .decWsConnections :: after)
  | leaving {events : List ConnectionEvent} : Silent events → Course true true events

def Orderly (handler : Handler) : Prop := Course handler.countedIn handler.countedOut handler.rest

/-- It will return without having counted itself out. -/
def leaks (handler : Handler) : Bool :=
  !handler.countedOut && !decide (.decWsConnections ∈ handler.rest) &&
    (handler.countedIn || decide (.incWsConnections ∈ handler.rest))

theorem new_handler (crates : TokenCrates) (json : JsonCrate) (env : Env) (auth : AuthState) (conn : Connection) :
    Orderly (.new (conn.handleConnection crates json env auth)) ∧
      leaks (.new (conn.handleConnection crates json env auth)) = refused crates json env auth conn := by
  unfold handleConnection refused
  cases isWs conn.peeked with
  | false => exact ⟨.outside (by simp [Silent, Handler.new]), by simp [leaks, Handler.new]⟩
  | true =>
      cases conn.handshake with
      | false => exact ⟨.outside (by simp [Silent, Handler.new]), by simp [leaks, Handler.new]⟩
      | true =>
          cases failed : authenticate crates json env auth conn.frames with
          | error events =>
              have silent : Silent events := by
                unfold authenticate at failed
                split at failed
                · split at failed
                  · dsimp only at failed
                    split_ifs at failed
                    cases failed
                    simp [Silent]
                  · cases failed
                    simp [Silent]
                · cases failed
              exact ⟨.arriving (.leaking silent), by simp [leaks, Handler.new, silent.2]⟩
          | ok frames =>
              have silent := silent_inbound json (.new 20 conn.opened) frames
              exact ⟨.arriving (.served silent (by simp [Silent])), by simp [leaks, Handler.new]⟩

/-- What an event means for the handler that does it. -/
inductive Meaning (handler : Handler) : ConnectionEvent → Prop
  | arrives : handler.countedIn = false → handler.countedOut = false → Meaning handler .incWsConnections
  | leaves : handler.countedIn = true → handler.countedOut = false → Meaning handler .decWsConnections
  | other {event : ConnectionEvent} : event ≠ .incWsConnections → event ≠ .decWsConnections → Meaning handler event

theorem Silent.cons (silent : Silent (event :: rest)) :
    (event ≠ .incWsConnections ∧ event ≠ .decWsConnections) ∧ Silent rest := by
  obtain ⟨noInc, noDec⟩ := silent
  rw [List.mem_cons, not_or] at noInc noDec
  exact ⟨⟨Ne.symm noInc.1, Ne.symm noDec.1⟩, noInc.2, noDec.2⟩

theorem Orderly.done (orderly : Orderly handler) (left : handler.rest = event :: rest) :
    Meaning handler event ∧ Orderly (handler.done event rest) ∧ leaks (handler.done event rest) = leaks handler := by
  obtain ⟨countedIn, countedOut, events⟩ := handler
  change events = event :: rest at left
  subst left
  have quiet {countedIn countedOut : Bool} (silent : Silent (event :: rest))
      (later : Silent rest → Course countedIn countedOut rest) :
      Meaning ⟨countedIn, countedOut, event :: rest⟩ event ∧
        Orderly (Handler.done ⟨countedIn, countedOut, event :: rest⟩ event rest) ∧
        leaks (Handler.done ⟨countedIn, countedOut, event :: rest⟩ event rest) =
          leaks ⟨countedIn, countedOut, event :: rest⟩ := by
    obtain ⟨⟨noInc, noDec⟩, after⟩ := silent.cons
    refine ⟨.other noInc noDec, ?_, ?_⟩
    · simpa [Orderly, Handler.done, noInc, noDec] using later after
    · simp [leaks, Handler.done, noInc, noDec, noInc.symm, noDec.symm]
  unfold Orderly at orderly
  generalize shape : event :: rest = all at orderly
  cases orderly with
  | outside silent =>
      subst shape
      exact quiet silent .outside
  | arriving later =>
      cases shape
      exact ⟨.arrives rfl rfl, later, by simp [leaks, Handler.done]⟩
  | leaking silent =>
      subst shape
      exact quiet silent .leaking
  | leaving silent =>
      subst shape
      exact quiet silent .leaving
  | @served before after first last =>
      cases before with
      | nil =>
          cases shape
          exact ⟨.leaves rfl rfl, .leaving last, by simp [leaks, Handler.done]⟩
      | cons other before =>
          cases shape
          obtain ⟨⟨noInc, noDec⟩, silent⟩ := first.cons
          refine ⟨.other noInc noDec, ?_, by simp [leaks, Handler.done, noInc]⟩
          simpa [Orderly, Handler.done, noInc, noDec] using Course.served silent last

/-! ## One step of the scheduler -/

/-- What a step can do, with the handlers before and after the one whose turn it is. -/
inductive Moved (crates : TokenCrates) (json : JsonCrate) (env : Env) (s : Handlers) : HandlerStep → Handlers → Prop
  | accepted (auth : AuthState) (conn : Connection) :
      Moved crates json env s (.accept auth conn)
        ⟨s.gauge, s.running ++ [.new (conn.handleConnection crates json env auth)]⟩
  | idle (index : Nat) : s.running[index]? = none → Moved crates json env s (.advance index) s
  | returned (index : Nat) (handler : Handler) (before after : List Handler) :
      s.running[index]? = some handler → handler.rest = [] → s.running = before ++ handler :: after →
      Moved crates json env s (.advance index) ⟨s.gauge, before ++ after⟩
  | performed (index : Nat) (handler : Handler) (event : ConnectionEvent) (rest : List ConnectionEvent)
      (before after : List Handler) :
      s.running[index]? = some handler → handler.rest = event :: rest → s.running = before ++ handler :: after →
      Moved crates json env s (.advance index) ⟨event.onGauge s.gauge, before ++ handler.done event rest :: after⟩

theorem split_at {α : Type} {l : List α} {index : Nat} {a : α} (found : l[index]? = some a) :
    ∃ before after, l = before ++ a :: after ∧ (∀ b, l.set index b = before ++ b :: after) ∧
      l.eraseIdx index = before ++ after := by
  obtain ⟨bound, here⟩ := List.getElem?_eq_some_iff.mp found
  refine ⟨l.take index, l.drop (index + 1), ?_, fun b => ?_, List.eraseIdx_eq_take_drop_succ l index⟩
  · rw [← here, List.cons_getElem_drop_succ, List.take_append_drop]
  · exact List.set_eq_take_cons_drop b bound

theorem moved_next (crates : TokenCrates) (json : JsonCrate) (env : Env) (s : Handlers) (step : HandlerStep) :
    Moved crates json env s step (s.next crates json env step) := by
  cases step with
  | accept auth conn => exact .accepted auth conn
  | advance index =>
      simp only [Handlers.next]
      cases found : s.running[index]? with
      | none => exact .idle index found
      | some handler =>
          obtain ⟨before, after, all, set, erased⟩ := split_at found
          simp only [Handlers.advance]
          cases left : handler.rest with
          | nil =>
              simp only [erased]
              exact .returned index handler before after found left all
          | cons event rest =>
              simp only [set]
              exact .performed index handler event rest before after found left all

theorem Moved.orderly {step : HandlerStep} {s' : Handlers} (moved : Moved crates json env s step s')
    (inv : ∀ handler ∈ s.running, Orderly handler) : ∀ handler ∈ s'.running, Orderly handler := by
  cases moved with
  | accepted auth conn =>
      intro handler member
      rcases List.mem_append.mp member with old | new
      · exact inv handler old
      · rw [List.mem_singleton.mp new]
        exact (new_handler crates json env auth conn).1
  | idle => exact inv
  | returned index gone before after found left all =>
      rw [all] at inv
      intro handler member
      refine inv handler ?_
      simp only [List.mem_append, List.mem_cons] at member ⊢
      tauto
  | performed index mover event rest before after found left all =>
      rw [all] at inv
      intro handler member
      simp only [List.mem_append, List.mem_cons] at member inv
      rcases member with early | rfl | late
      · exact inv handler (.inl early)
      · exact ((inv mover (.inr (.inl rfl))).done left).2.1
      · exact inv handler (.inr (.inr late))

/-! ## The gauge through a run -/

theorem succ_ne (n : UInt64) : n + 1 ≠ n := by
  intro same
  have value := congrArg UInt64.toNat same
  rw [UInt64.toNat_add] at value
  have bound := n.toNat_lt
  change (n.toNat + 1) % 2 ^ 64 = n.toNat at value
  omega

theorem pred_ne (n : UInt64) : n - 1 ≠ n := by
  intro same
  refine succ_ne (n - 1) ?_
  rw [UInt64.sub_add_cancel, same]

section Counting
variable {α : Type} {p : α → Bool} {all before after : List α} {old : α}

theorem countP_same (new : α) (was : all = before ++ old :: after) (same : p new = p old) :
    (before ++ new :: after).countP p = all.countP p := by
  rw [was]
  simp only [List.countP_append, List.countP_cons, same]

theorem countP_grown (new : α) (was : all = before ++ old :: after) (no : p old = false) (yes : p new = true) :
    (before ++ new :: after).countP p = all.countP p + 1 := by
  rw [was]
  simp [no, yes, Nat.add_assoc]

theorem countP_kept (was : all = before ++ old :: after) (no : p old = false) :
    (before ++ after).countP p = all.countP p := by
  rw [was]
  simp [no]

theorem countP_lost (was : all = before ++ old :: after) (yes : p old = true) :
    (before ++ after).countP p + 1 = all.countP p := by
  rw [was]
  simp [yes, Nat.add_assoc]

end Counting

structure Counts (p : Handler → Bool) (s : Handlers) : Prop where
  orderly : ∀ handler ∈ s.running, Orderly handler
  gauge : s.gauge = UInt64.ofNat (s.running.countP p)

theorem counts_quiet (p : Handler → Bool) : Counts p (quiet 0) :=
  ⟨fun _ member => absurd member List.not_mem_nil, rfl⟩

theorem Counts.accepted {p : Handler → Bool} (inv : Counts p s) (absent : ∀ events, p (.new events) = false)
    (auth : AuthState) (conn : Connection) :
    Counts p ⟨s.gauge, s.running ++ [.new (conn.handleConnection crates json env auth)]⟩ := by
  refine ⟨(moved_next crates json env s (.accept auth conn)).orderly inv.orderly, ?_⟩
  rw [List.countP_append, List.countP_singleton, absent, if_neg Bool.false_ne_true]
  exact inv.gauge

theorem onGauge_other (noInc : event ≠ .incWsConnections) (noDec : event ≠ .decWsConnections) (gauge : UInt64) :
    event.onGauge gauge = gauge := by
  cases event <;> first | rfl | exact absurd rfl noInc | exact absurd rfl noDec

theorem Counts.next_stays (inv : Counts Handler.countedIn s) {step : HandlerStep} (stays : Stays s step) :
    Counts Handler.countedIn (s.next crates json env step) := by
  have moved := moved_next crates json env s step
  refine ⟨moved.orderly inv.orderly, ?_⟩
  generalize s.next crates json env step = s' at moved
  cases moved with
  | accepted auth conn => exact (inv.accepted (fun _ => rfl) auth conn).gauge
  | idle => exact inv.gauge
  | returned index handler before after found left all =>
      have outside : handler.countedIn = false := by
        by_contra inside
        obtain ⟨event, rest, more, -⟩ := stays handler found (by simpa using inside)
        cases left.symm.trans more
      exact inv.gauge.trans (congrArg UInt64.ofNat (countP_kept all outside).symm)
  | performed index handler event rest before after found left all =>
      obtain ⟨meaning, -, -⟩ := (inv.orderly handler (List.mem_of_getElem? found)).done left
      cases meaning with
      | arrives outside _ =>
          have grown := countP_grown (p := Handler.countedIn) (handler.done .incWsConnections rest) all outside
            (by simp [Handler.done])
          rw [grown, Machine.ofNat_succ, ← inv.gauge]
          rfl
      | leaves inside _ =>
          obtain ⟨other, later, more, differs⟩ := stays handler found inside
          cases left.symm.trans more
          exact absurd rfl differs
      | other noInc noDec =>
          have same := countP_same (p := Handler.countedIn) (handler.done event rest) all
            (by simp [Handler.done, noInc])
          exact (onGauge_other noInc noDec s.gauge).trans (inv.gauge.trans (congrArg UInt64.ofNat same.symm))

theorem Counts.broken (inv : Counts Handler.countedIn s) {step : HandlerStep} (away : ¬Stays s step) :
    ¬Exact (s.next crates json env step) := by
  have moved := moved_next crates json env s step
  generalize s.next crates json env step = s' at moved
  intro exact'
  cases moved with
  | accepted auth conn => exact away trivial
  | idle index nobody =>
      refine away fun handler member => ?_
      rw [nobody] at member
      cases member
  | returned index handler before after found left all =>
      have inside : handler.countedIn = true := by
        by_contra outside
        refine away fun other member inside => ?_
        obtain rfl : handler = other := Option.some.inj (found.symm.trans member)
        exact absurd inside outside
      have lost := countP_lost (p := Handler.countedIn) all inside
      refine succ_ne s.gauge ((congrArg (· + 1) exact').trans ?_)
      rw [← Machine.ofNat_succ, lost, inv.gauge]
  | performed index handler event rest before after found left all =>
      obtain ⟨meaning, -, -⟩ := (inv.orderly handler (List.mem_of_getElem? found)).done left
      have leaves : handler.countedIn = true ∧ event = .decWsConnections := by
        by_contra stays
        refine away fun other member inside => ?_
        obtain rfl : handler = other := Option.some.inj (found.symm.trans member)
        exact ⟨event, rest, left, fun dec => stays ⟨inside, dec⟩⟩
      obtain ⟨inside, rfl⟩ := leaves
      have same := countP_same (p := Handler.countedIn) (handler.done .decWsConnections rest) all
        (by simp [Handler.done])
      refine pred_ne s.gauge (Eq.trans exact' ?_)
      exact (congrArg UInt64.ofNat same).trans inv.gauge.symm

theorem Counts.next_countsOut (inv : Counts Handler.present s) {step : HandlerStep} (tidy : CountsOut s step) :
    Counts Handler.present (s.next crates json env step) := by
  have moved := moved_next crates json env s step
  refine ⟨moved.orderly inv.orderly, ?_⟩
  generalize s.next crates json env step = s' at moved
  cases moved with
  | accepted auth conn => exact (inv.accepted (fun _ => rfl) auth conn).gauge
  | idle => exact inv.gauge
  | returned index handler before after found left all =>
      have absent : handler.present = false := by
        by_contra present
        exact tidy handler found (by simpa using present) left
      exact inv.gauge.trans (congrArg UInt64.ofNat (countP_kept all absent).symm)
  | performed index handler event rest before after found left all =>
      obtain ⟨meaning, -, -⟩ := (inv.orderly handler (List.mem_of_getElem? found)).done left
      cases meaning with
      | arrives outside early =>
          have grown := countP_grown (p := Handler.present) (handler.done .incWsConnections rest) all
            (by simp [Handler.present, outside]) (by simp [Handler.present, Handler.done, early])
          rw [grown, Machine.ofNat_succ, ← inv.gauge]
          rfl
      | leaves inside early =>
          have shrunk := countP_grown (p := Handler.present) handler (rfl : before ++ _ :: after = _)
            (by simp [Handler.present, Handler.done] : (handler.done .decWsConnections rest).present = false)
            (by simp [Handler.present, inside, early])
          change s.gauge - 1 = _
          rw [inv.gauge, all, shrunk, Machine.ofNat_succ, UInt64.add_sub_cancel]
      | other noInc noDec =>
          have same := countP_same (p := Handler.present) (handler.done event rest) all
            (by simp [Handler.present, Handler.done, noInc, noDec])
          exact (onGauge_other noInc noDec s.gauge).trans (inv.gauge.trans (congrArg UInt64.ofNat same.symm))

theorem Counts.unbalanced (inv : Counts Handler.present s) {step : HandlerStep} (leak : ¬CountsOut s step) :
    ¬Balanced (s.next crates json env step) := by
  have moved := moved_next crates json env s step
  generalize s.next crates json env step = s' at moved
  intro balanced
  cases moved with
  | accepted auth conn => exact leak trivial
  | idle index nobody =>
      refine leak fun handler member => ?_
      rw [nobody] at member
      cases member
  | returned index handler before after found left all =>
      have present : handler.present = true := by
        by_contra absent
        refine leak fun other member present => ?_
        obtain rfl : handler = other := Option.some.inj (found.symm.trans member)
        exact absurd present absent
      have lost := countP_lost (p := Handler.present) all present
      refine succ_ne s.gauge ((congrArg (· + 1) balanced).trans ?_)
      rw [← Machine.ofNat_succ, lost, inv.gauge]
  | performed index handler event rest before after found left all =>
      refine leak fun other member _ => ?_
      obtain rfl : handler = other := Option.some.inj (found.symm.trans member)
      rw [left]
      exact List.cons_ne_nil event rest

/-! ## The connections that were refused -/

/-- `gone` handlers have returned without having counted themselves out. -/
structure Ledger (earlier : UInt64) (refusals : Nat) (s : Handlers) : Prop where
  orderly : ∀ handler ∈ s.running, Orderly handler
  settled : ∃ gone, s.gauge = earlier + UInt64.ofNat (s.running.countP Handler.present + gone) ∧
    refusals = s.running.countP leaks + gone

theorem Ledger.next {earlier : UInt64} {refusals : Nat} (inv : Ledger earlier refusals s) (step : HandlerStep) :
    Ledger earlier (refusals + (step.refused crates json env).toNat) (s.next crates json env step) := by
  have moved := moved_next crates json env s step
  refine ⟨moved.orderly inv.orderly, ?_⟩
  generalize s.next crates json env step = s' at moved
  obtain ⟨gone, gauge, refusals⟩ := inv.settled
  cases moved with
  | accepted auth conn =>
      refine ⟨gone, ?_, ?_⟩
      · rw [List.countP_append]
        exact gauge
      · rw [List.countP_append, List.countP_singleton, (new_handler crates json env auth conn).2, refusals]
        change _ + (Spec.refused crates json env auth conn).toNat = _
        cases Spec.refused crates json env auth conn <;> simp
        omega
  | idle => exact ⟨gone, gauge, refusals⟩
  | returned index handler before after found left all =>
      have same : leaks handler = handler.present := by simp [leaks, Handler.present, left, Bool.and_comm]
      cases present : handler.present with
      | false =>
          refine ⟨gone, ?_, ?_⟩
          · rw [countP_kept all present]
            exact gauge
          · rw [countP_kept all (same.trans present)]
            exact refusals
      | true =>
          have here := countP_lost all present
          have owed := countP_lost all (same.trans present)
          refine ⟨gone + 1, ?_, ?_⟩
          · rw [← Nat.add_assoc, Nat.add_right_comm, here]
            exact gauge
          · rw [← Nat.add_assoc, Nat.add_right_comm, owed]
            exact refusals
  | performed index handler event rest before after found left all =>
      obtain ⟨meaning, -, owed⟩ := (inv.orderly handler (List.mem_of_getElem? found)).done left
      refine ⟨gone, ?_, refusals.trans (congrArg (· + gone) (countP_same (p := leaks) _ all owed).symm)⟩
      cases meaning with
      | arrives outside early =>
          have grown := countP_grown (p := Handler.present) (handler.done .incWsConnections rest) all
            (by simp [Handler.present, outside]) (by simp [Handler.present, Handler.done, early])
          rw [grown, Nat.add_right_comm, Machine.ofNat_succ, ← UInt64.add_assoc, ← gauge]
          rfl
      | leaves inside early =>
          have shrunk := countP_grown (p := Handler.present) handler (rfl : before ++ _ :: after = _)
            (by simp [Handler.present, Handler.done] : (handler.done .decWsConnections rest).present = false)
            (by simp [Handler.present, inside, early])
          change s.gauge - 1 = _
          rw [gauge, all, shrunk, Nat.add_right_comm, Machine.ofNat_succ, ← UInt64.add_assoc, UInt64.add_sub_cancel]
      | other noInc noDec =>
          have same := countP_same (p := Handler.present) (handler.done event rest) all
            (by simp [Handler.present, Handler.done, noInc, noDec])
          rw [same, ← gauge]
          exact onGauge_other noInc noDec s.gauge

theorem Ledger.run {earlier : UInt64} {refusals : Nat} (inv : Ledger earlier refusals s) (steps : List HandlerStep) :
    Ledger earlier (refusals + steps.countP (HandlerStep.refused crates json env))
      (steps.foldl (Handlers.next crates json env) s) := by
  induction steps generalizing s refusals with
  | nil => exact inv
  | cons step rest ih =>
      have one : Ledger earlier (refusals + (step.refused crates json env).toNat) (s.next crates json env step) :=
        inv.next step
      have count : refusals + (step :: rest).countP (HandlerStep.refused crates json env) =
          refusals + (step.refused crates json env).toNat + rest.countP (HandlerStep.refused crates json env) := by
        rw [List.countP_cons]
        cases step.refused crates json env <;> simp
        omega
      rw [count]
      exact ih one

theorem gauge_at_end (crates : TokenCrates) (json : JsonCrate) (env : Env) (steps : List HandlerStep) (earlier : UInt64)
    (ended : (steps.foldl (Handlers.next crates json env) (quiet earlier)).running = []) :
    (steps.foldl (Handlers.next crates json env) (quiet earlier)).gauge = earlier ↔
      2 ^ 64 ∣ steps.countP (HandlerStep.refused crates json env) := by
  have start : Ledger earlier 0 (quiet earlier) :=
    ⟨fun _ member => absurd member List.not_mem_nil, 0, (UInt64.add_zero earlier).symm, rfl⟩
  have inv : Ledger earlier (0 + steps.countP (HandlerStep.refused crates json env))
      (steps.foldl (Handlers.next crates json env) (quiet earlier)) := start.run steps
  obtain ⟨gone, gauge, refusals⟩ := inv.settled
  rw [ended, List.countP_nil, Nat.zero_add] at gauge refusals
  rw [Nat.zero_add] at refusals
  rw [gauge, refusals, UInt64.add_eq_left, ← UInt64.toNat_inj, UInt64.toNat_ofNat']
  exact Nat.dvd_iff_mod_eq_zero.symm

/-- The gauge is exact as long as nobody leaves. If counting out is as good as returning, it is exact as long as nobody
returns without that; and in the end it is off by the number of refused connections. -/
theorem gauge_exact_iff (crates : TokenCrates) (json : JsonCrate) (env : Env) (steps : List HandlerStep) :
    (Transition.Always Exact (fun s step => some (s.next crates json env step)) (quiet 0) steps ↔
        Transition.Respects Stays (fun s step => some (s.next crates json env step)) (quiet 0) steps) ∧
      (Transition.Always Balanced (fun s step => some (s.next crates json env step)) (quiet 0) steps ↔
        Transition.Respects CountsOut (fun s step => some (s.next crates json env step)) (quiet 0) steps) ∧
      ∀ earlier, (steps.foldl (Handlers.next crates json env) (quiet earlier)).running = [] →
        ((steps.foldl (Handlers.next crates json env) (quiet earlier)).gauge = earlier ↔
          2 ^ 64 ∣ steps.countP (HandlerStep.refused crates json env)) := by
  have runs : (Transition.run (fun s step => some (Handlers.next crates json env s step)) (quiet 0) steps).isSome := by
    rw [Transition.run_total]
    rfl
  refine ⟨?_, ?_, gauge_at_end crates json env steps⟩
  · refine Transition.always_iff_respects (fun s inv => Counts.gauge inv) ?_ ?_ (counts_quiet Handler.countedIn) runs
    · intro s step s' inv stays moved
      cases moved
      exact inv.next_stays stays
    · intro s step s' inv away moved
      cases moved
      exact inv.broken away
  · refine Transition.always_iff_respects (fun s inv => Counts.gauge inv) ?_ ?_ (counts_quiet Handler.present) runs
    · intro s step s' inv tidy moved
      cases moved
      exact inv.next_countsOut tidy
    · intro s step s' inv leak moved
      cases moved
      exact inv.unbalanced leak

/-! ## A session and an intruder -/

-- the handler of one connection from its start to its return
def visit (texts : List String) (events : Nat) : List HandlerStep :=
  .accept ⟨2, ∅⟩ (Gate.client texts) :: List.replicate (events + 1) (.advance 0)

theorem gauge_returns_after_session :
    let last := (visit [Gate.hello, Gate.destroy] 4).foldl
      (Handlers.next Gate.tokenCrates Gate.jsonCrate Gate.guarded) (quiet 7)
    last.running = [] ∧ last.gauge = 7 := by
  intro last
  have ended : last.running = [] := by decide +kernel
  have admitted : (visit [Gate.hello, Gate.destroy] 4).countP
      (HandlerStep.refused Gate.tokenCrates Gate.jsonCrate Gate.guarded) = 0 := by decide +kernel
  refine ⟨ended, ((gauge_exact_iff Gate.tokenCrates Gate.jsonCrate Gate.guarded _).2.2 7 ended).mpr ?_⟩
  rw [admitted]
  exact dvd_zero _

theorem intruder_stays_counted :
    ¬∀ env steps, Transition.Always Exact
        (fun s step => some (Handlers.next Gate.tokenCrates Gate.jsonCrate env s step)) (quiet 0) steps ∧
      ∀ earlier,
        let last := steps.foldl (Handlers.next Gate.tokenCrates Gate.jsonCrate env) (quiet earlier)
        last.running = [] → last.gauge = earlier := by
  intro claim
  have back := (claim Gate.guarded (visit [Gate.destroy] 2)).2 0 (by decide +kernel)
  exact absurd back (by decide +kernel)

end LiveWorld.Proof.Gauge

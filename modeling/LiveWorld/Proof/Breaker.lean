import LiveWorld.Lib.Machine
import LiveWorld.Spec.Breaker
import Mathlib.Tactic

/-!
# What callers see of a shared breaker

A report ends whatever state the breaker is in, so a late success closes a breaker that has just opened; and a
half-open breaker lets everybody through.
-/

namespace LiveWorld.Proof.Breaker
open Spec SharedBreaker
variable {ι : Type} {breaker : CircuitBreaker} {s s' : SharedBreaker ι} {call : BreakerCall ι} {now : Nat}

/-! ## One call -/

theorem isOpen_open {openedAt : Nat} (state : breaker.state = .Open openedAt) :
    breaker.isOpen now = if breaker.resetTimeout ≤ now - openedAt then (false, { breaker with state := .HalfOpen })
      else (true, breaker) := by
  simp only [CircuitBreaker.isOpen, state]

theorem open_or_not (breaker : CircuitBreaker) :
    (∃ openedAt, breaker.state = .Open openedAt) ∨ blocks breaker.state = false := by
  cases breaker.state with
  | Open openedAt => exact .inl ⟨openedAt, rfl⟩
  | Closed n => exact .inr rfl
  | HalfOpen => exact .inr rfl

theorem isOpen_other (other : blocks breaker.state = false) : breaker.isOpen now = (false, breaker) := by
  unfold CircuitBreaker.isOpen
  cases state : breaker.state with
  | Open openedAt =>
      rw [state] at other
      cases other
  | Closed n => rfl
  | HalfOpen => rfl

theorem isOpen_resetTimeout (breaker : CircuitBreaker) (now : Nat) :
    (breaker.isOpen now).2.resetTimeout = breaker.resetTimeout := by
  rcases open_or_not breaker with ⟨openedAt, state⟩ | other
  · rw [isOpen_open state]
    split_ifs <;> rfl
  · rw [isOpen_other other]

theorem recordFailure_resetTimeout (breaker : CircuitBreaker) (now : Nat) :
    (breaker.recordFailure now).resetTimeout = breaker.resetTimeout := by
  unfold CircuitBreaker.recordFailure
  cases breaker.state with
  | Closed n =>
      simp only
      split_ifs <;> rfl
  | Open openedAt => rfl
  | HalfOpen => rfl

/-- A failure opens the breaker now, or it changes neither the openings nor what is open. -/
theorem recordFailure_state (breaker : CircuitBreaker) (now : Nat) :
    (blocks breaker.state = false ∧ (breaker.recordFailure now).state = .Open now) ∨
      (blocks breaker.state = false ∧ blocks (breaker.recordFailure now).state = false ∧
        (breaker.recordFailure now).state ≠ .HalfOpen) ∨
      (blocks breaker.state = true ∧ breaker.recordFailure now = breaker) := by
  unfold CircuitBreaker.recordFailure
  cases state : breaker.state with
  | Closed n =>
      simp only
      split_ifs
      · exact .inl ⟨rfl, rfl⟩
      · exact .inr (.inl ⟨rfl, rfl, fun same => by cases same⟩)
  | HalfOpen => exact .inl ⟨rfl, rfl⟩
  | Open openedAt => exact .inr (.inr ⟨rfl, rfl⟩)

/-! ## The timeout -/

/-- Every opening is still in force, or its timeout is over. -/
structure Windows (s : SharedBreaker ι) : Prop where
  past : ∀ opened ∈ s.openings, opened ≤ s.now
  current : ∀ openedAt, s.breaker.state = .Open openedAt → openedAt ∈ s.openings ∧ ∀ opened ∈ s.openings, opened ≤ openedAt
  expired : blocks s.breaker.state = false → ∀ opened ∈ s.openings, opened + s.breaker.resetTimeout ≤ s.now

theorem windows_start (failureThreshold : UInt32) (resetTimeout : Nat) :
    Windows (start failureThreshold resetTimeout : SharedBreaker ι) := by
  refine ⟨fun opened member => ?_, fun openedAt state => ?_, fun _ opened member => ?_⟩
  · cases member
  · cases state
  · cases member

theorem Windows.holds (inv : Windows s) : Blocks s := by
  intro caller now idle later opened member soon
  rcases open_or_not s.breaker with ⟨openedAt, state⟩ | other
  · have latest := (inv.current openedAt state).2 opened member
    have known := inv.past openedAt (inv.current openedAt state).1
    rw [isOpen_open state, if_neg (by omega)]
  · have expired := inv.expired other opened member
    omega

variable [DecidableEq ι]

inductive Taken (s : SharedBreaker ι) (call : BreakerCall ι) : SharedBreaker ι → Prop
  | asked (idle : s.calling call.caller = false) (method : call.method = .isOpen) : Taken s call (s.ask call.caller call.now)
  | succeeded (method : call.method = .recordSuccess) :
      Taken s call (s.report call.caller call.now s.breaker.recordSuccess)
  | failed (method : call.method = .recordFailure) :
      Taken s call (s.report call.caller call.now (s.breaker.recordFailure call.now))

theorem next_taken (moved : s.next call = some s') : s.now ≤ call.now ∧ Taken s call s' := by
  unfold SharedBreaker.next at moved
  split_ifs at moved with early
  refine ⟨Nat.not_lt.mp early, ?_⟩
  split at moved
  · rename_i method idle
    cases moved
    exact .asked idle method
  · rename_i method _
    cases moved
    exact .succeeded method
  · rename_i method _
    cases moved
    exact .failed method
  · cases moved

theorem Windows.ask (inv : Windows s) (caller : ι) (later : s.now ≤ now) : Windows (s.ask caller now) := by
  have timeout : (s.ask caller now).breaker.resetTimeout = s.breaker.resetTimeout := isOpen_resetTimeout s.breaker now
  refine ⟨fun opened member => (inv.past opened member).trans later, ?_, ?_⟩
  · intro openedAt state
    change (s.breaker.isOpen now).2.state = _ at state
    rcases open_or_not s.breaker with ⟨since, before⟩ | other
    · rw [isOpen_open before] at state
      split_ifs at state
      exact inv.current openedAt state
    · rw [isOpen_other other] at state
      exact inv.current openedAt state
  · intro closed opened member
    rw [timeout]
    rcases open_or_not s.breaker with ⟨since, before⟩ | other
    · have latest := (inv.current since before).2 opened member
      have known := inv.past since (inv.current since before).1
      change blocks (s.breaker.isOpen now).2.state = false at closed
      change opened + s.breaker.resetTimeout ≤ now
      rw [isOpen_open before] at closed
      split_ifs at closed with elapsed
      · omega
      · rw [before] at closed
        cases closed
    · exact (inv.expired other opened member).trans later

theorem Windows.succeed (inv : Windows s) (caller : ι) (later : s.now ≤ now)
    (timely : ∀ openedAt, s.breaker.state = .Open openedAt → openedAt + s.breaker.resetTimeout ≤ now) :
    Windows (s.report caller now s.breaker.recordSuccess) := by
  refine ⟨fun opened member => (inv.past opened member).trans later, fun openedAt state => (by cases state), ?_⟩
  intro _ opened member
  change opened + s.breaker.resetTimeout ≤ now
  rcases open_or_not s.breaker with ⟨since, before⟩ | other
  · have latest := (inv.current since before).2 opened member
    have expired := timely since before
    omega
  · exact (inv.expired other opened member).trans later

theorem Windows.fail (inv : Windows s) (caller : ι) (later : s.now ≤ now) :
    Windows (s.report caller now (s.breaker.recordFailure now)) := by
  have timeout := recordFailure_resetTimeout s.breaker now
  have openings : (s.report caller now (s.breaker.recordFailure now)).openings =
      if blocks (s.breaker.recordFailure now).state && !blocks s.breaker.state then now :: s.openings else s.openings := rfl
  rcases recordFailure_state s.breaker now with ⟨before, after⟩ | ⟨before, after, -⟩ | ⟨before, same⟩
  · have fresh : (s.report caller now (s.breaker.recordFailure now)).openings = now :: s.openings := by
      rw [openings, before, after]
      rfl
    refine ⟨?_, ?_, fun closed => ?_⟩
    · rw [fresh, List.forall_mem_cons]
      exact ⟨le_rfl, fun opened member => (inv.past opened member).trans later⟩
    · intro openedAt state
      obtain rfl : now = openedAt := BreakerState.Open.inj (after.symm.trans state)
      rw [fresh, List.forall_mem_cons]
      exact ⟨List.mem_cons_self, le_rfl, fun opened member => (inv.past opened member).trans later⟩
    · change blocks (s.breaker.recordFailure now).state = false at closed
      rw [after] at closed
      cases closed
  · have same : (s.report caller now (s.breaker.recordFailure now)).openings = s.openings := by
      rw [openings, after]
      rfl
    refine ⟨?_, ?_, fun _ => ?_⟩
    · rw [same]
      exact fun opened member => (inv.past opened member).trans later
    · intro openedAt state
      change (s.breaker.recordFailure now).state = _ at state
      rw [state] at after
      cases after
    · rw [same]
      change ∀ opened ∈ s.openings, opened + (s.breaker.recordFailure now).resetTimeout ≤ now
      rw [timeout]
      exact fun opened member => (inv.expired before opened member).trans later
  · have kept : (s.report caller now (s.breaker.recordFailure now)).openings = s.openings := by
      rw [openings, before, Bool.not_true, Bool.and_false]
      rfl
    refine ⟨?_, ?_, fun closed => ?_⟩
    · rw [kept]
      exact fun opened member => (inv.past opened member).trans later
    · rw [kept]
      change ∀ openedAt, (s.breaker.recordFailure now).state = _ → _
      rw [same]
      exact inv.current
    · change blocks (s.breaker.recordFailure now).state = false at closed
      rw [same, before] at closed
      cases closed

theorem Windows.next (inv : Windows s) (timely : Timely s call) (moved : s.next call = some s') : Windows s' := by
  obtain ⟨later, taken⟩ := next_taken moved
  cases taken with
  | asked idle method => exact inv.ask call.caller later
  | succeeded method => exact inv.succeed call.caller later (timely method)
  | failed method => exact inv.fail call.caller later

-- whoever reported the success may ask again at once
theorem Windows.broken (inv : Windows s) (late : ¬Timely s call) (moved : s.next call = some s') : ¬Blocks s' := by
  unfold Timely at late
  push Not at late
  obtain ⟨method, openedAt, state, soon⟩ := late
  obtain ⟨later, taken⟩ := next_taken moved
  intro blocks
  cases taken with
  | asked idle asked => cases asked.symm.trans method
  | failed failed => cases failed.symm.trans method
  | succeeded _ =>
      have answer := blocks call.caller call.now (Function.update_self _ _ _) le_rfl openedAt
        (inv.current openedAt state).1 soon
      cases answer

/-- An open breaker rejects everybody until its timeout, in exactly the runs where no success arrives before that. -/
theorem open_blocks_iff (failureThreshold : UInt32) (resetTimeout : Nat) (calls : List (BreakerCall ι))
    (runs : (Transition.run next (start failureThreshold resetTimeout) calls).isSome) :
    Transition.Always Blocks next (start failureThreshold resetTimeout) calls ↔
      Transition.Respects Timely next (start failureThreshold resetTimeout) calls :=
  Transition.always_iff_respects (fun _ inv => Windows.holds inv) (fun _ _ _ inv timely moved => inv.next timely moved)
    (fun _ _ _ inv late moved => inv.broken late moved) (windows_start failureThreshold resetTimeout) runs

-- one call fails and opens the breaker, another one succeeds after the timeout
theorem open_blocks_after_timeout :
    Transition.Always Blocks next (start 1 30 : SharedBreaker Nat)
      [⟨0, .isOpen, 0⟩, ⟨1, .isOpen, 0⟩, ⟨0, .recordFailure, 1⟩, ⟨0, .isOpen, 30⟩, ⟨1, .recordSuccess, 31⟩] :=
  (open_blocks_iff 1 30 _ (by decide)).mpr (by decide)

-- six calls overlap; five of them fail and open the breaker, and the sixth succeeds
def lateSuccess : List (BreakerCall Nat) :=
  [⟨0, .isOpen, 0⟩, ⟨1, .isOpen, 0⟩, ⟨2, .isOpen, 0⟩, ⟨3, .isOpen, 0⟩, ⟨4, .isOpen, 0⟩, ⟨5, .isOpen, 0⟩,
    ⟨0, .recordFailure, 1⟩, ⟨1, .recordFailure, 1⟩, ⟨2, .recordFailure, 1⟩, ⟨3, .recordFailure, 1⟩,
    ⟨4, .recordFailure, 1⟩, ⟨5, .recordSuccess, 2⟩]

theorem late_success_unblocks :
    ¬∀ calls : List (BreakerCall Nat), (Transition.run next (start 5 30) calls).isSome →
      Transition.Always Blocks next (start 5 30) calls := by
  intro claim
  have blocks := (claim lateSuccess (by decide)).last rfl
  have answer := blocks 5 2 rfl le_rfl 1 (by decide) (by decide)
  cases answer

/-! ## The probe -/

/-- A breaker is half-open exactly between a probe and the next report. -/
def Probing (s : SharedBreaker ι) : Prop := s.probe.isSome ↔ s.breaker.state = .HalfOpen

theorem Probing.next (inv : Probing s) (moved : s.next call = some s') : Probing s' := by
  obtain ⟨-, taken⟩ := next_taken moved
  unfold Probing at inv
  cases taken with
  | asked idle method =>
      unfold Probing SharedBreaker.ask
      rcases open_or_not s.breaker with ⟨openedAt, state⟩ | other
      · rw [isOpen_open state]
        split_ifs with elapsed
        · simp [state]
        · simpa using inv
      · rw [isOpen_other other]
        simpa using inv
  | succeeded method => exact iff_of_false (by simp [SharedBreaker.report]) fun same => by cases same
  | failed method =>
      refine iff_of_false (by simp [SharedBreaker.report]) fun same => ?_
      change (s.breaker.recordFailure call.now).state = .HalfOpen at same
      rcases recordFailure_state s.breaker call.now with ⟨-, after⟩ | ⟨-, -, after⟩ | ⟨before, after⟩
      · cases after.symm.trans same
      · exact after same
      · rw [after] at same
        rw [same] at before
        cases before

omit [DecidableEq ι] in
theorem oneProbe_iff (inv : Probing s) (call : BreakerCall ι) : OneProbe s call ↔ Unrivalled s call := by
  refine imp_congr_right fun asked => ?_
  constructor
  · intro once halfOpen
    have answer := once.2 (inv.mpr halfOpen)
    rw [isOpen_other (by rw [halfOpen]; rfl)] at answer
    cases answer
  · intro unrivalled
    constructor
    · intro changed
      rcases open_or_not s.breaker with ⟨openedAt, state⟩ | other
      · rw [isOpen_open state] at changed ⊢
        split_ifs at changed ⊢ with elapsed
        · rfl
        · exact absurd rfl changed
      · rw [isOpen_other other]
    · exact fun probing => absurd (inv.mp probing) unrivalled

/-- A half-open breaker lets one caller through in exactly the runs where nobody else asks it. -/
theorem one_probe_iff (failureThreshold : UInt32) (resetTimeout : Nat) (calls : List (BreakerCall ι)) :
    Transition.Respects OneProbe next (start failureThreshold resetTimeout) calls ↔
      Transition.Respects Unrivalled next (start failureThreshold resetTimeout) calls :=
  Transition.respects_congr (fun _ call inv => oneProbe_iff inv call) (fun _ _ _ inv moved => Probing.next inv moved)
    (iff_of_false (by simp [start]) fun same => (by cases same)) calls

-- the timeout has passed, and two callers ask
def twoAsk : List (BreakerCall Nat) :=
  [⟨0, .isOpen, 0⟩, ⟨0, .recordFailure, 1⟩, ⟨0, .isOpen, 31⟩, ⟨1, .isOpen, 31⟩]

theorem two_probes :
    ¬∀ calls : List (BreakerCall Nat), (Transition.run next (start 1 30) calls).isSome →
      Transition.Respects OneProbe next (start 1 30) calls := by
  intro claim
  have once : OneProbe _ ⟨1, .isOpen, 31⟩ := (claim twoAsk (by decide)).2.2.2.1
  have answer := (once rfl).2 rfl
  cases answer

/-! ## Failures of a closed breaker -/

section History
open Machine WatchedBreaker
variable {κ : Type} {threshold : UInt32} {timeout : Nat} {w : WatchedBreaker} {calls : List (BreakerCall κ)}
  {one : BreakerCall κ}

inductive Called (breaker : CircuitBreaker) (one : BreakerCall κ) : CircuitBreaker → Prop
  | passed : one.method = .isOpen → blocks breaker.state = false → Called breaker one breaker
  | rejected (openedAt : Nat) : one.method = .isOpen → breaker.state = .Open openedAt → Called breaker one breaker
  | probed (openedAt : Nat) : one.method = .isOpen → breaker.state = .Open openedAt →
      breaker.resetTimeout ≤ one.now - openedAt → Called breaker one { breaker with state := .HalfOpen }
  | succeeded : one.method = .recordSuccess → Called breaker one { breaker with state := .Closed 0 }
  | tripped (n : UInt32) : one.method = .recordFailure → breaker.state = .Closed n → breaker.failureThreshold ≤ n + 1 →
      Called breaker one { breaker with state := .Open one.now }
  | counted (n : UInt32) : one.method = .recordFailure → breaker.state = .Closed n →
      ¬breaker.failureThreshold ≤ n + 1 → Called breaker one { breaker with state := .Closed (n + 1) }
  | reopened : one.method = .recordFailure → breaker.state = .HalfOpen →
      Called breaker one { breaker with state := .Open one.now }
  | ignored (openedAt : Nat) : one.method = .recordFailure → breaker.state = .Open openedAt → Called breaker one breaker

theorem called (breaker : CircuitBreaker) (one : BreakerCall κ) : Called breaker one (one.apply breaker) := by
  unfold BreakerCall.apply
  cases method : one.method with
  | isOpen =>
      rcases open_or_not breaker with ⟨openedAt, state⟩ | other
      · simp only [isOpen_open state]
        split_ifs with elapsed
        · exact .probed openedAt method state elapsed
        · exact .rejected openedAt method state
      · simp only [isOpen_other other]
        exact .passed method other
  | recordSuccess => exact .succeeded method
  | recordFailure =>
      simp only [CircuitBreaker.recordFailure]
      cases state : breaker.state with
      | Closed n =>
          simp only
          split_ifs with enough
          · exact .tripped n method state enough
          · exact .counted n method state enough
      | Open openedAt => exact .ignored openedAt method state
      | HalfOpen => exact .reopened method state

structure Watched (threshold : UInt32) (timeout : Nat) (calls : List (BreakerCall κ)) (w : WatchedBreaker) : Prop where
  threshold : w.breaker.failureThreshold = threshold
  timeout : w.breaker.resetTimeout = timeout
  counts : CountsFailures w.breaker.failureThreshold w
  opened : ∀ openedAt, w.breaker.state = .Open openedAt →
    w.opened = some openedAt ∧ openedAt ∈ calls.map BreakerCall.now

theorem Watched.enough_iff (inv : Watched threshold timeout calls w) {n : UInt32} (state : w.breaker.state = .Closed n) :
    w.breaker.failureThreshold ≤ n + 1 ↔ w.failures + 1 = threshold.toNat := by
  obtain ⟨same, few⟩ := inv.counts n state
  rw [UInt32.le_iff_toNat_le, toNat_succ32 (same ▸ few), same, inv.threshold]
  rw [inv.threshold] at few
  omega

theorem Watched.next (inv : Watched threshold timeout calls w) (positive : 1 ≤ threshold) (one : BreakerCall κ) :
    Watched threshold timeout (calls ++ [one]) (w.next one) := by
  have moved := called w.breaker one
  have later (openedAt : Nat) (state : w.breaker.state = .Open openedAt) :
      w.opened = some openedAt ∧ openedAt ∈ (calls ++ [one]).map BreakerCall.now := by
    obtain ⟨opened, member⟩ := inv.opened openedAt state
    rw [List.map_append]
    exact ⟨opened, List.mem_append_left _ member⟩
  unfold WatchedBreaker.next
  generalize one.apply w.breaker = after at moved
  cases moved with
  | passed method other =>
      refine ⟨inv.threshold, inv.timeout, ?_, ?_⟩
      · simpa [method] using inv.counts
      · simpa using later
  | rejected openedAt method state =>
      refine ⟨inv.threshold, inv.timeout, fun n closed => ?_, ?_⟩
      · cases state.symm.trans closed
      · simpa using later
  | ignored openedAt method state =>
      refine ⟨inv.threshold, inv.timeout, fun n closed => ?_, ?_⟩
      · cases state.symm.trans closed
      · simpa using later
  | probed openedAt method state elapsed =>
      refine ⟨inv.threshold, inv.timeout, fun n closed => ?_, fun openedAt state => ?_⟩
      · cases closed
      · cases state
  | succeeded method =>
      refine ⟨inv.threshold, inv.timeout, fun n same => ?_, fun openedAt state => ?_⟩
      · cases same
        have room : 0 < w.breaker.failureThreshold.toNat := by
          rw [inv.threshold]
          exact UInt32.le_iff_toNat_le.mp positive
        simpa [method] using room
      · cases state
  | tripped n method state enough =>
      refine ⟨inv.threshold, inv.timeout, fun n closed => ?_, fun openedAt now => ?_⟩
      · cases closed
      · cases now
        simp [blocks, state]
  | reopened method state =>
      refine ⟨inv.threshold, inv.timeout, fun n closed => ?_, fun openedAt now => ?_⟩
      · cases closed
      · cases now
        simp [blocks, state]
  | counted n method state few =>
      refine ⟨inv.threshold, inv.timeout, fun m same => ?_, fun openedAt state => ?_⟩
      · cases same
        obtain ⟨counted, room⟩ := inv.counts n state
        rw [UInt32.le_iff_toNat_le, toNat_succ32 (counted ▸ room)] at few
        rw [toNat_succ32 (counted ▸ room)]
        simp only [method, state, closed, reduceCtorEq, not_true, and_false, or_false, if_false, if_true]
        omega
      · cases state

theorem watched_run (positive : 1 ≤ threshold) (timeout : Nat) (calls : List (BreakerCall κ)) :
    Watched threshold timeout calls (run threshold timeout calls) := by
  induction calls using List.reverseRecOn with
  | nil =>
      refine ⟨rfl, rfl, fun n same => ?_, fun openedAt state => ?_⟩
      · cases same
        exact ⟨rfl, UInt32.le_iff_toNat_le.mp positive⟩
      · cases state
  | append_singleton calls one ih =>
      rw [run, List.foldl_append]
      exact ih.next positive one

theorem Watched.leaves_closed (inv : Watched threshold timeout calls w) (one : BreakerCall κ)
    (before : closed w.breaker.state = true) :
    closed (one.apply w.breaker).state = false ↔ one.method = .recordFailure ∧ w.failures + 1 = threshold.toNat := by
  have moved := called w.breaker one
  generalize one.apply w.breaker = after at moved
  cases moved with
  | passed method => simp [before, method]
  | succeeded method => simp [closed, method]
  | tripped n method state enough => simp [closed, method, (inv.enough_iff state).mp enough]
  | counted n method state few => simp [closed, mt (inv.enough_iff state).mpr few]
  | rejected _ _ state | probed _ _ state | reopened _ state | ignored _ _ state =>
      rw [state] at before
      cases before

theorem Watched.leaves_open (inv : Watched threshold timeout calls w) (later : ∀ earlier ∈ calls, earlier.now ≤ one.now)
    (before : blocks w.breaker.state = true) (gone : blocks (one.apply w.breaker).state = false) :
    one.method = .recordSuccess ∨ one.method = .isOpen ∧ ∃ opened ∈ w.opened, opened + timeout ≤ one.now := by
  have moved := called w.breaker one
  generalize one.apply w.breaker = after at moved gone
  cases moved with
  | passed => cases before.symm.trans gone
  | rejected => cases before.symm.trans gone
  | ignored => cases before.symm.trans gone
  | tripped => cases gone
  | reopened => cases gone
  | succeeded method => exact .inl method
  | counted n method state =>
      rw [state] at before
      cases before
  | probed openedAt method state elapsed =>
      obtain ⟨opened, member⟩ := inv.opened openedAt state
      obtain ⟨earlier, made, rfl⟩ := List.mem_map.mp member
      have known := later earlier made
      rw [inv.timeout] at elapsed
      exact .inr ⟨method, earlier.now, opened, by omega⟩

theorem leaves_halfOpen {breaker : CircuitBreaker} (before : breaker.state = .HalfOpen)
    (gone : (one.apply breaker).state ≠ .HalfOpen) : one.method = .recordSuccess ∨ one.method = .recordFailure := by
  cases method : one.method with
  | recordSuccess => exact .inl rfl
  | recordFailure => exact .inr rfl
  | isOpen =>
      refine absurd ?_ gone
      simp only [BreakerCall.apply, method]
      rw [isOpen_other (by rw [before]; rfl)]
      exact before

/-- A closed breaker counts the failures, and each of the states is left only in its own way. -/
theorem breaker_counts_failures (threshold : UInt32) (timeout : Nat) (positive : 1 ≤ threshold)
    (calls : List (BreakerCall κ)) (one : BreakerCall κ)
    (ordered : ((calls ++ [one]).map BreakerCall.now).Pairwise (· ≤ ·)) :
    CountsFailures threshold (run threshold timeout calls) ∧ Leaves threshold timeout (run threshold timeout calls) one := by
  have inv := watched_run positive timeout calls
  have later : ∀ earlier ∈ calls, earlier.now ≤ one.now := by
    rw [List.map_append, List.pairwise_append] at ordered
    exact fun earlier member => ordered.2.2 _ (List.mem_map_of_mem member) _ List.mem_cons_self
  constructor
  · have counts := inv.counts
    rwa [inv.threshold] at counts
  · exact ⟨inv.leaves_closed one, inv.leaves_open later, leaves_halfOpen⟩

-- one failure is on record, and one more is one too many
theorem second_failure_opens :
    CountsFailures 2 (run 2 30 [⟨(), .recordFailure, 1⟩, ⟨(), .isOpen, 2⟩]) ∧
      Leaves 2 30 (run 2 30 [⟨(), .recordFailure, 1⟩, ⟨(), .isOpen, 2⟩]) (⟨(), .recordFailure, 3⟩ : BreakerCall Unit) :=
  breaker_counts_failures 2 30 (by decide) _ _ (by decide)

end History

end LiveWorld.Proof.Breaker

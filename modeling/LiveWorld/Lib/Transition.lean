import Mathlib.Data.List.Forall2

/-!
# Runs of a transition system

`Reachable init allowed next` are the states that runs from `init` visit when every action taken is
allowed in the state it is taken in. An invariant is checked on the first states and on one step.
-/

namespace Transition
universe u v
variable {σ : Type u} {ι : Type v}

inductive Reachable (init : σ → Prop) (allowed : σ → ι → Prop) (next : σ → ι → Option σ) : σ → Prop
  | start {s : σ} : init s → Reachable init allowed next s
  | step {s s' : σ} {a : ι} : Reachable init allowed next s → allowed s a → next s a = some s' →
      Reachable init allowed next s'

variable {init : σ → Prop} {allowed : σ → ι → Prop} {next : σ → ι → Option σ}

theorem Reachable.invariant {Inv : σ → Prop} (initial : ∀ s, init s → Inv s)
    (preserved : ∀ s a s', Inv s → allowed s a → next s a = some s' → Inv s') {s : σ}
    (reachable : Reachable init allowed next s) : Inv s := by
  induction reachable with
  | start first => exact initial _ first
  | step _ ok moved ih => exact preserved _ _ _ ih ok moved

def run (next : σ → ι → Option σ) : σ → List ι → Option σ
  | s, [] => some s
  | s, a :: rest => (next s a).bind fun s' => run next s' rest

theorem run_total (f : σ → ι → σ) (s : σ) (actions : List ι) :
    run (fun s a => some (f s a)) s actions = some (actions.foldl f s) := by
  induction actions generalizing s with
  | nil => rfl
  | cons a rest ih => exact ih (f s a)

def Respects (allowed : σ → ι → Prop) (next : σ → ι → Option σ) : σ → List ι → Prop
  | _, [] => True
  | s, a :: rest => allowed s a ∧ ((next s a).elim True fun s' => Respects allowed next s' rest)

theorem respects_of_forall (all : ∀ s a, allowed s a) (s : σ) (actions : List ι) : Respects allowed next s actions := by
  induction actions generalizing s with
  | nil => trivial
  | cons a rest ih =>
      refine ⟨all s a, ?_⟩
      cases next s a with
      | none => trivial
      | some s' => exact ih s'

theorem respects_of_mem {actions : List ι} (all : ∀ a ∈ actions, ∀ s, allowed s a) (s : σ) :
    Respects allowed next s actions := by
  induction actions generalizing s with
  | nil => trivial
  | cons a rest ih =>
      refine ⟨all a List.mem_cons_self s, ?_⟩
      cases next s a with
      | none => trivial
      | some s' => exact ih (fun later member => all later (List.mem_cons_of_mem a member)) s'

instance Respects.decidable [∀ s a, Decidable (allowed s a)] :
    ∀ s actions, Decidable (Respects allowed next s actions)
  | _, [] => .isTrue trivial
  | s, a :: rest =>
      match moved : next s a with
      | some s' =>
          have := Respects.decidable s' rest
          decidable_of_iff (allowed s a ∧ Respects allowed next s' rest) (by simp [Respects, moved])
      | none => decidable_of_iff (allowed s a) (by simp [Respects, moved])

theorem Reachable.run {s s' : σ} {actions : List ι} (reachable : Reachable init allowed next s)
    (respects : Respects allowed next s actions) (ran : Transition.run next s actions = some s') :
    Reachable init allowed next s' := by
  induction actions generalizing s with
  | nil =>
      cases ran
      exact reachable
  | cons a rest ih =>
      simp only [Transition.run, Option.bind_eq_some_iff] at ran
      obtain ⟨t, moved, ran⟩ := ran
      rw [Respects, moved] at respects
      exact ih (reachable.step respects.1 moved) respects.2 ran

theorem Reachable.getD_run {s : σ} {actions : List ι} (reachable : Reachable init allowed next s)
    (respects : Respects allowed next s actions) (runs : (Transition.run next s actions).isSome) :
    Reachable init allowed next ((Transition.run next s actions).getD s) := by
  obtain ⟨last, ran⟩ := Option.isSome_iff_exists.mp runs
  rw [ran]
  exact reachable.run respects ran

theorem Reachable.foldl {f : σ → ι → σ} {s : σ} {actions : List ι}
    (reachable : Reachable init allowed (fun s a => some (f s a)) s)
    (respects : Respects allowed (fun s a => some (f s a)) s actions) :
    Reachable init allowed (fun s a => some (f s a)) (actions.foldl f s) := by
  induction actions generalizing s with
  | nil => exact reachable
  | cons a rest ih => exact ih (reachable.step respects.1 rfl) respects.2

/-! ## Properties of a run and of its actions -/

/-- Every state of the run satisfies `P`. -/
def Always (P : σ → Prop) (next : σ → ι → Option σ) : σ → List ι → Prop
  | s, [] => P s
  | s, a :: rest => P s ∧ (next s a).elim True fun s' => Always P next s' rest

theorem Always.first {P : σ → Prop} {s : σ} {actions : List ι} (always : Always P next s actions) : P s := by
  cases actions with
  | nil => exact always
  | cons a rest => exact always.1

theorem Always.last {P : σ → Prop} {s s' : σ} {actions : List ι} (always : Always P next s actions)
    (ran : run next s actions = some s') : P s' := by
  induction actions generalizing s with
  | nil =>
      cases ran
      exact always
  | cons a rest ih =>
      simp only [run, Option.bind_eq_some_iff] at ran
      obtain ⟨t, moved, ran⟩ := ran
      rw [Always, moved] at always
      exact ih always.2 ran

/-- If every forbidden action leads to a state without `P`, a run has `P` throughout iff it takes none. -/
theorem always_iff_respects {Inv P : σ → Prop} (holds : ∀ s, Inv s → P s)
    (kept : ∀ s a s', Inv s → allowed s a → next s a = some s' → Inv s')
    (broken : ∀ s a s', Inv s → ¬allowed s a → next s a = some s' → ¬P s') {s : σ} {actions : List ι} (inv : Inv s)
    (runs : (run next s actions).isSome) : Always P next s actions ↔ Respects allowed next s actions := by
  induction actions generalizing s with
  | nil => exact iff_of_true (holds s inv) trivial
  | cons a rest ih =>
      cases moved : next s a with
      | none =>
          rw [run, moved] at runs
          cases runs
      | some s' =>
          rw [run, moved] at runs
          rw [Always, Respects, moved]
          by_cases ok : allowed s a
          · exact and_congr (iff_of_true (holds s inv) ok) (ih (kept s a s' inv ok moved) runs)
          · exact iff_of_false (fun always => broken s a s' inv ok moved always.2.first) fun respects => ok respects.1

/-- Two conditions on actions that agree in every state of an invariant. -/
theorem respects_congr {Inv : σ → Prop} {allowed' : σ → ι → Prop} (same : ∀ s a, Inv s → (allowed s a ↔ allowed' s a))
    (kept : ∀ s a s', Inv s → next s a = some s' → Inv s') {s : σ} (inv : Inv s) (actions : List ι) :
    Respects allowed next s actions ↔ Respects allowed' next s actions := by
  induction actions generalizing s with
  | nil => exact Iff.rfl
  | cons a rest ih =>
      refine and_congr (same s a inv) ?_
      cases moved : next s a with
      | none => exact Iff.rfl
      | some s' => exact ih (kept s a s' inv moved)

/-! ## Two runs side by side -/

section TwoRuns
variable {τ : Type*} {κ : Type*} {next' : τ → κ → Option τ} {R : σ → τ → Prop} {Same : ι → κ → Prop}

theorem run_related (step : ∀ s t a b, R s t → Same a b → Option.Rel R (next s a) (next' t b)) {actions : List ι}
    {actions' : List κ} (same : List.Forall₂ Same actions actions') {s : σ} {t : τ} (related : R s t) :
    Option.Rel R (run next s actions) (run next' t actions') := by
  induction same generalizing s t with
  | nil => exact .some related
  | @cons a b rest rest' here later ih =>
      simp only [run]
      generalize one : next s a = after
      generalize two : next' t b = after'
      have moved := step s t a b related here
      rw [one, two] at moved
      cases moved with
      | none => exact .none
      | some related => exact ih related

end TwoRuns

end Transition

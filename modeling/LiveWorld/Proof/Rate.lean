import LiveWorld.Spec.Rate

/-!
# Windows of a second

A window starts with the call that finds the one before it over, so two windows start a second apart at least, and each
of them lets through as many calls as the limit says.
-/

namespace LiveWorld.Proof.Rate
open Machine Spec
variable {limiter : RateLimiter} {now : Nat}

/-! ## One call -/

inductive Asked (limiter : RateLimiter) (now : Nat) : Bool × RateLimiter → Prop
  | restarted : limiter.windowStart + second ≤ now → 0 < limiter.limit.toNat →
      Asked limiter now (true, ⟨1, now, limiter.limit⟩)
  | barred : limiter.windowStart + second ≤ now → limiter.limit.toNat = 0 →
      Asked limiter now (false, ⟨0, now, limiter.limit⟩)
  | counted : now < limiter.windowStart + second → limiter.count.toNat < limiter.limit.toNat →
      Asked limiter now (true, { limiter with count := limiter.count + 1 })
  | refused : now < limiter.windowStart + second → limiter.limit.toNat ≤ limiter.count.toNat →
      Asked limiter now (false, limiter)

theorem allow_asked (limiter : RateLimiter) (now : Nat) : Asked limiter now (limiter.allow now) := by
  unfold RateLimiter.allow
  by_cases elapsed : now - limiter.windowStart ≥ 1000000000
  · have past : limiter.windowStart + second ≤ now := by
      unfold second
      omega
    simp only [if_pos elapsed]
    split_ifs with full
    · exact .barred past (Nat.le_zero.mp (UInt32.le_iff_toNat_le.mp full))
    · exact .restarted past (UInt32.lt_iff_toNat_lt.mp (UInt32.not_le.mp full))
  · have running : now < limiter.windowStart + second := by
      unfold second
      omega
    simp only [if_neg elapsed]
    split_ifs with full
    · exact .refused running (UInt32.le_iff_toNat_le.mp full)
    · exact .counted running (UInt32.lt_iff_toNat_lt.mp (UInt32.not_le.mp full))

theorem allowedAt_cons (limiter : RateLimiter) (now : Nat) (rest : List Nat) :
    allowedAt limiter (now :: rest) =
      if (limiter.allow now).1 then now :: allowedAt (limiter.allow now).2 rest
      else allowedAt (limiter.allow now).2 rest := rfl

/-! ## How many are let through -/

/-- How many windows may start in a stretch of time. -/
def windows (stretch : Nat) : Nat := (stretch + second - 1) / second

theorem windows_restart {start stop earlier now : Nat} (later : start ≤ now) (past : earlier + second ≤ now)
    (before : now < stop) :
    windows (stop - max start (now + second)) + 1 ≤ windows (stop - max start (earlier + second)) := by
  unfold windows second at *
  omega

theorem windows_le (start seconds opened : Nat) :
    windows (start + seconds * second - max start (opened + second)) ≤ seconds := by
  unfold windows second
  omega

theorem allowedAt_subset {limiter : RateLimiter} {readings : List Nat} {before : Nat}
    (member : before ∈ allowedAt limiter readings) : before ∈ readings := by
  induction readings generalizing limiter with
  | nil => exact member
  | cons now rest ih =>
      rw [allowedAt_cons] at member
      split_ifs at member
      · rcases List.mem_cons.mp member with rfl | later
        · exact List.mem_cons_self
        · exact List.mem_cons_of_mem _ (ih later)
      · exact List.mem_cons_of_mem _ (ih member)

theorem countWithin_zero {start stop : Nat} {readings : List Nat} (late : ∀ now ∈ readings, stop ≤ now) :
    countWithin start stop readings = 0 := by
  rw [countWithin, List.countP_eq_zero]
  intro now member
  have here := late now member
  simp only [decide_eq_true_eq]
  omega

theorem countWithin_cons_le (start stop now : Nat) (rest : List Nat) :
    countWithin start stop (now :: rest) ≤ countWithin start stop rest + 1 := by
  rw [countWithin, List.countP_cons]
  split_ifs <;> simp [countWithin]

-- what is left of the current window, and then one limit for each window that may still start before `stop`
theorem countWithin_late (start stop : Nat) (limiter : RateLimiter) {readings : List Nat}
    (ordered : readings.Pairwise (· ≤ ·)) (late : ∀ now ∈ readings, start ≤ now) :
    countWithin start stop (allowedAt limiter readings) ≤ limiter.limit.toNat - limiter.count.toNat +
      limiter.limit.toNat * windows (stop - max start (limiter.windowStart + second)) := by
  induction readings generalizing limiter with
  | nil => exact Nat.zero_le _
  | cons now rest ih =>
      obtain ⟨first, ordered⟩ := List.pairwise_cons.mp ordered
      by_cases past : stop ≤ now
      · rw [countWithin_zero]
        · exact Nat.zero_le _
        · intro before member
          rcases List.mem_cons.mp (allowedAt_subset member) with rfl | later
          · exact past
          · exact past.trans (first before later)
      · have here := late now List.mem_cons_self
        have bound (next : RateLimiter) := ih next ordered fun t member => late t (List.mem_cons_of_mem _ member)
        have moved := allow_asked limiter now
        rw [allowedAt_cons]
        generalize limiter.allow now = answer at moved
        cases moved with
        | restarted elapsed positive =>
            have more := windows_restart here elapsed (Nat.lt_of_not_le past)
            have budget := Nat.mul_le_mul_left limiter.limit.toNat more
            rw [Nat.mul_add, Nat.mul_one] at budget
            have step := countWithin_cons_le start stop now (allowedAt ⟨1, now, limiter.limit⟩ rest)
            have later := bound ⟨1, now, limiter.limit⟩
            simp only [show (1 : UInt32).toNat = 1 from rfl] at later
            simp only [if_true]
            omega
        | barred elapsed zero =>
            have later := bound ⟨0, now, limiter.limit⟩
            simp only [zero, Nat.zero_mul, Nat.zero_sub, Nat.add_zero] at later ⊢
            exact later
        | counted running room =>
            have step := countWithin_cons_le start stop now
              (allowedAt { limiter with count := limiter.count + 1 } rest)
            have later := bound { limiter with count := limiter.count + 1 }
            simp only [toNat_succ32 room] at later
            simp only [if_true]
            omega
        | refused running full => exact bound limiter

theorem limit_allow (limiter : RateLimiter) (now : Nat) : (limiter.allow now).2.limit = limiter.limit := by
  have moved := allow_asked limiter now
  generalize limiter.allow now = answer at moved
  cases moved <;> rfl

theorem countWithin_allowedAt (start seconds : Nat) (limiter : RateLimiter) {readings : List Nat}
    (ordered : readings.Pairwise (· ≤ ·)) :
    countWithin start (start + seconds * second) (allowedAt limiter readings) ≤
      limiter.limit.toNat * (seconds + 1) := by
  induction readings generalizing limiter with
  | nil => exact Nat.zero_le _
  | cons now rest ih =>
      obtain ⟨first, later⟩ := List.pairwise_cons.mp ordered
      by_cases early : now < start
      · -- whatever happens before `start` leaves a limiter behind, and that is all that counts
        have same : countWithin start (start + seconds * second) (allowedAt limiter (now :: rest)) =
            countWithin start (start + seconds * second) (allowedAt (limiter.allow now).2 rest) := by
          rw [allowedAt_cons]
          split_ifs
          · rw [countWithin, List.countP_cons_of_neg]
            · rfl
            · simp only [decide_eq_true_eq]
              omega
          · rfl
        rw [same, ← limit_allow limiter now]
        exact ih _ later
      · have late : ∀ t ∈ now :: rest, start ≤ t := by
          intro t member
          rcases List.mem_cons.mp member with rfl | after
          · exact Nat.le_of_not_lt early
          · exact (Nat.le_of_not_lt early).trans (first t after)
        have bound := countWithin_late start (start + seconds * second) limiter ordered late
        have few := Nat.mul_le_mul_left limiter.limit.toNat (windows_le start seconds limiter.windowStart)
        rw [Nat.mul_add, Nat.mul_one]
        omega

/-! ## Who is refused -/

/-- The calls of the current window are among those that were allowed since it started. -/
def Backed (limiter : RateLimiter) (past : List Nat) : Prop :=
  limiter.count.toNat ≤ past.countP fun before => decide (limiter.windowStart ≤ before)

theorem Backed.allow {past : List Nat} (backed : Backed limiter past) (later : limiter.windowStart ≤ now) :
    Backed (limiter.allow now).2 (past ++ if (limiter.allow now).1 then [now] else []) ∧
      (limiter.allow now).2.windowStart ≤ now := by
  unfold Backed at *
  have moved := allow_asked limiter now
  generalize limiter.allow now = answer at moved
  cases moved with
  | restarted => simp
  | barred => simp
  | counted running room =>
      refine ⟨?_, later⟩
      simp only [toNat_succ32 room, if_true, List.countP_append, List.countP_singleton, later, decide_true]
      exact Nat.add_le_add_right backed 1
  | refused => simpa using ⟨backed, later⟩

theorem backed_asked (limiter : RateLimiter) (past : List Nat) {earlier : List Nat} (backed : Backed limiter past)
    (ordered : (limiter.windowStart :: earlier).Pairwise (· ≤ ·)) :
    Backed (asked limiter earlier) (past ++ allowedAt limiter earlier) := by
  induction earlier generalizing limiter past with
  | nil => simpa [asked, allowedAt] using backed
  | cons now rest ih =>
      obtain ⟨first, later⟩ := List.pairwise_cons.mp ordered
      obtain ⟨next, started⟩ := backed.allow (first now List.mem_cons_self)
      have onward : ((limiter.allow now).2.windowStart :: rest).Pairwise (· ≤ ·) := by
        refine List.pairwise_cons.mpr ⟨fun t member => ?_, later.of_cons⟩
        exact started.trans (List.rel_of_pairwise_cons later member)
      have after := ih _ _ next onward
      rw [allowedAt_cons]
      change Backed (asked (limiter.allow now).2 _) _
      split_ifs at after ⊢ <;> simpa using after

theorem limit_asked (limiter : RateLimiter) (readings : List Nat) : (asked limiter readings).limit = limiter.limit := by
  induction readings generalizing limiter with
  | nil => rfl
  | cons now rest ih => exact (ih _).trans (limit_allow limiter now)

theorem Backed.refused {past : List Nat} (backed : Backed limiter past) (refused : (limiter.allow now).1 = false) :
    limiter.limit.toNat ≤ past.countP fun before => decide (now < before + second) := by
  have moved := allow_asked limiter now
  generalize limiter.allow now = answer at moved refused
  cases moved with
  | restarted => cases refused
  | counted => cases refused
  | barred _ zero => exact zero.le.trans (Nat.zero_le _)
  | refused running full =>
      refine (full.trans backed).trans (List.countP_mono_left fun before _ since => ?_)
      simp only [decide_eq_true_eq] at since ⊢
      omega

theorem limits_rate (limit : UInt32) (opened : Nat) (readings : List Nat)
    (ordered : (opened :: readings).Pairwise (· ≤ ·)) : LimitsRate limit opened readings := by
  constructor
  · intro start seconds _
    exact countWithin_allowedAt start seconds (.new limit opened) ordered.of_cons
  · intro earlier now later split refused
    have first : (opened :: earlier).Pairwise (· ≤ ·) := by
      rw [split, ← List.cons_append] at ordered
      exact (List.pairwise_append.mp ordered).1
    have backed : Backed (asked (.new limit opened) earlier) (allowedAt (.new limit opened) earlier) :=
      backed_asked (.new limit opened) [] (Nat.zero_le _) first
    have enough := backed.refused refused
    rw [limit_asked] at enough
    exact enough

theorem three_in_a_second : LimitsRate 3 0 [1, 2, 3, 4] := limits_rate 3 0 [1, 2, 3, 4] (by decide)

end LiveWorld.Proof.Rate

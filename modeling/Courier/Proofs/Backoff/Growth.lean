import Courier.Proofs.Backoff.Timeline
import Courier.Proofs.Item.Account
import Courier.Proofs.Number.Power

/-!
How the delays of a policy grow. Rounding included, no delay is below an earlier one until the
exponent turns negative, and from there on every delay has a value. So one delay, the longest, tells
whether all have one; if it has none, a retry that fails all the time halts on the way.
-/

namespace Courier

open Binary64

attribute [local irreducible] unitsOfOne overflowUnits

section Nanoseconds

variable {x y : Binary64} {nanos : Nat}

/-- A number of seconds that is a power of two has its number. -/
theorem valid_two_pow : ∀ exponent ≤ 64,
    (Binary64.finite false (2 ^ exponent * unitsOfOne)).Valid := by
  have hall : ∀ exponent ≤ 64, IsSpaced (2 ^ exponent * unitsOfOne) ∧
      2 ^ exponent * unitsOfOne < overflowUnits := by
    decide +kernel
  exact hall

/-- Less time has a length if more time has one. -/
theorem isSome_nanosOfSeconds?_of_atMost (h : AtMost x y) (hy : (nanosOfSeconds? y).isSome) :
    (nanosOfSeconds? x).isSome := by
  cases h with
  | @finite units bound hle =>
    have hnanos : roundQuotient (units * 1000000000) unitsOfOne ≤
        roundQuotient (bound * 1000000000) unitsOfOne :=
      roundQuotient_mono (Nat.mul_le_mul_right _ hle)
    simp only [nanosOfSeconds?, Bool.false_eq_true, false_and, if_false] at hy ⊢
    split at hy
    · next hin =>
      rw [if_pos ⟨Nat.lt_of_le_of_lt hle hin.1, Nat.lt_of_le_of_lt hnanos hin.2⟩]
      rfl
    · cases hy
  | below | infinite => cases hy

theorem isSome_nanosOfSeconds?_two_pow :
    (nanosOfSeconds? (.finite false (2 ^ 56 * unitsOfOne))).isSome := by
  decide +kernel

theorem atMost_secondsOfNanos (h : nanos < 2 ^ 64 * 1000000) :
    AtMost (secondsOfNanos nanos) (.finite false (2 ^ 56 * unitsOfOne)) := by
  have hwhole : AtMost (ofNat (nanos / 1000000000)) (.finite false (2 ^ 55 * unitsOfOne)) := by
    apply AtMost.ofUnits_bound Nat.one_pos (valid_two_pow 55 (by decide))
    rw [Nat.mul_one]
    apply Nat.mul_le_mul_right
    omega
  have hpart : AtMost (ofRatio false (nanos % 1000000000) 1000000000)
      (.finite false (2 ^ 0 * unitsOfOne)) := by
    apply AtMost.ofUnits_bound (by decide) (valid_two_pow 0 (by decide))
    rw [Nat.pow_zero, Nat.one_mul, Nat.mul_comm unitsOfOne]
    apply Nat.mul_le_mul_right
    omega
  unfold secondsOfNanos
  generalize ofNat (nanos / 1000000000) = whole at hwhole ⊢
  generalize ofRatio false (nanos % 1000000000) 1000000000 = part at hpart ⊢
  cases hwhole with
  | finite hunits =>
    cases hpart with
    | finite hunits' =>
      apply AtMost.ofUnits_bound Nat.one_pos (valid_two_pow 56 (by decide))
      omega

/-- A smaller factor gives less time, which has a length if there is one for the greater factor. -/
theorem isSome_nanosOfSeconds?_mul {seconds : Binary64} {bound : Nat}
    (hseconds : AtMost seconds (.finite false bound)) (h : AtMost x y)
    (hy : (nanosOfSeconds? (y.mul seconds)).isSome) :
    (nanosOfSeconds? (x.mul seconds)).isSome := by
  cases hseconds with
  | @finite units _ hunits =>
    cases h with
    | finite hle =>
      apply isSome_nanosOfSeconds?_of_atMost (AtMost.ofUnits unitsOfOne_pos _) hy
      exact Nat.mul_le_mul_right _ hle
    | below | infinite =>
      rw [mul] at hy
      split at hy <;> cases hy

end Nanoseconds

namespace RetryPolicy

variable {policy : RetryPolicy} {attempt later : Nat}

/-- The policy has a delay of whole milliseconds in a word of 64 bits and a multiplier of the
    format. -/
structure InRange (policy : RetryPolicy) : Prop where
  initialDelay : policy.initialDelay < 2 ^ 64 * 1000000
  multiplier : policy.multiplier.Valid

theorem growthExponent_eq (attempt : Nat) :
    growthExponent attempt = Int.bmod (attempt - 1 : Nat) 4294967296 := rfl

theorem growthExponent_of_le (h : attempt ≤ 2 ^ 31) :
    growthExponent attempt = ((attempt - 1 : Nat) : Int) := by
  rw [growthExponent_eq]
  exact Int.bmod_eq_of_le (by omega) (by omega)

/-- Beyond `2 ^ 31` attempts the signed word holds a negative number. -/
theorem growthExponent_nonpos (h : 2 ^ 31 < attempt) (hword : attempt ≤ 2 ^ 32) :
    growthExponent attempt ≤ 0 := by
  rw [growthExponent_eq, Int.bmod_def]
  split <;> omega

theorem attempts_lt (policy : RetryPolicy) : policy.attempts < 2 ^ 32 := by
  have hword := policy.maxAttempts.toNat_lt
  unfold attempts
  omega

theorem one_atMost_atLeastOne (x : Binary64) : AtMost one x.atLeastOne := by
  unfold atLeastOne
  split
  · exact .below _
  · split
    · next hless => exact .finite (Nat.le_of_lt hless)
    · exact .finite (Nat.le_refl _)
  · exact .finite (Nat.le_refl _)

theorem valid_atLeastOne {x : Binary64} (h : x.Valid) : x.atLeastOne.Valid := by
  unfold atLeastOne
  split
  · trivial
  · split
    · exact h
    · exact valid_one
  · exact valid_one

theorem delayAfter?_eq (policy : RetryPolicy) (attempt : Nat) :
    policy.delayAfter? attempt =
      nanosOfSeconds? ((policy.multiplier.atLeastOne.power (growthExponent attempt)).mul
        (secondsOfNanos policy.initialDelay)) := rfl

/-- A delay that has not grown has a value. -/
theorem isSome_delayAfter?_of_nonpos (hrange : policy.InRange) (h : growthExponent attempt ≤ 0) :
    (policy.delayAfter? attempt).isSome := by
  rw [delayAfter?_eq]
  have hfactor := AtMost.power_le_one (one_atMost_atLeastOne policy.multiplier) h
  have hseconds := atMost_secondsOfNanos hrange.initialDelay
  generalize policy.multiplier.atLeastOne.power (growthExponent attempt) = factor at hfactor ⊢
  generalize secondsOfNanos policy.initialDelay = seconds at hseconds ⊢
  apply isSome_nanosOfSeconds?_of_atMost _ isSome_nanosOfSeconds?_two_pow
  cases hfactor with
  | finite hunits =>
    cases hseconds with
    | finite hunits' =>
      apply AtMost.ofUnits_bound unitsOfOne_pos (valid_two_pow 56 (by decide))
      rw [Nat.mul_comm _ unitsOfOne]
      exact Nat.mul_le_mul hunits hunits'

/-- Up to `2 ^ 31` attempts, a delay has a value if a later one has. -/
theorem isSome_delayAfter?_of_le (hrange : policy.InRange) (hle : attempt ≤ later)
    (hlater : later ≤ 2 ^ 31) (h : (policy.delayAfter? later).isSome) :
    (policy.delayAfter? attempt).isSome := by
  rw [delayAfter?_eq] at h ⊢
  apply isSome_nanosOfSeconds?_mul (atMost_secondsOfNanos hrange.initialDelay) _ h
  rw [growthExponent_of_le hlater, growthExponent_of_le (Nat.le_trans hle hlater)]
  apply AtMost.power (one_atMost_atLeastOne _) (valid_atLeastOne hrange.multiplier)
  omega

/-- The attempt with the longest delay behind it. -/
def longest (policy : RetryPolicy) : Nat := min (policy.attempts - 1) (2 ^ 31)

/-- All delays have values just if the longest one has. -/
theorem delaysDefined_iff (hrange : policy.InRange) :
    policy.DelaysDefined ↔ (policy.delayAfter? policy.longest).isSome := by
  have hattempts := policy.attempts_lt
  have hlongest : policy.longest = min (policy.attempts - 1) (2 ^ 31) := rfl
  constructor
  · intro h
    by_cases hfirst : policy.longest ≤ 1
    · apply isSome_delayAfter?_of_nonpos hrange
      rw [growthExponent_of_le (by omega)]
      omega
    · apply h <;> omega
  · intro h attempt hone hless
    by_cases hle : attempt ≤ 2 ^ 31
    · apply isSome_delayAfter?_of_le hrange _ _ h <;> omega
    · apply isSome_delayAfter?_of_nonpos hrange
      apply growthExponent_nonpos <;> omega

/-- Doubling from one second on, the delays have values up to the sixty-fourth. -/
example : (standard.delayAfter? 64).isSome ∧ standard.delayAfter? 65 = none := by decide +kernel

end RetryPolicy

section Runs

variable {ε α : Type} {again : ε → Bool} {rehearsal : Rehearsal ε α}

/-- Every call fails and is worth another one. -/
def Rehearsal.FailsAlways (again : ε → Bool) (rehearsal : Rehearsal ε α) : Prop :=
  ∀ i, ∃ e, rehearsal.outcome i = .error e ∧ again e = true

namespace Rehearsal

variable {delay : Nat → Option Nat} {left i last : Nat}

/-- A delay that is needed and has no value is the end, after the call before it. -/
theorem run_retryFrom_halts (hfails : rehearsal.FailsAlways again) (hle : i ≤ last)
    (hleft : last < i + left) (hdelays : ∀ j, i ≤ j → j < last → (delay (j + 1)).isSome)
    (hnone : delay (last + 1) = none) :
    (retryFrom delay again call.run left (i + 1)).run (Watch.answer rehearsal) Watch.pass
        (rehearsal.watchBefore delay i) = (none, rehearsal.watchAfter delay last) := by
  induction left generalizing i with
  | zero => omega
  | succ left ih =>
    obtain ⟨e, houtcome, hagain⟩ := hfails i
    rw [retryFrom, Program.run_bind_of_eq (run_call i)]
    obtain hless | rfl := Nat.lt_or_eq_of_le hle
    · obtain ⟨nanos, hnanos⟩ := Option.isSome_iff_exists.1 (hdelays i (Nat.le_refl i) hless)
      simp only [houtcome, hagain, if_true, hnanos, Program.run, pass_watchAfter hnanos]
      apply ih hless
      · omega
      · intro j hj
        exact hdelays j (by omega)
    · simp only [houtcome, hagain, if_true, hnone, Program.run]

theorem FailsAlways.not_settles (h : rehearsal.FailsAlways again) (i : Nat) :
    ¬ Settles again (rehearsal.outcome i) := by
  obtain ⟨e, houtcome, hagain⟩ := h i
  rw [houtcome, Settles, hagain]
  exact Bool.noConfusion

end Rehearsal

namespace RetryPolicy

/-- With all delays defined the last failure is the result, and nothing follows it. -/
theorem retryIf_exhausts (policy : RetryPolicy) (hfails : rehearsal.FailsAlways again)
    (hdelays : policy.DelaysDefined) :
    (retryIf policy again call).run.run (Watch.answer rehearsal) Watch.pass .start =
      (some (rehearsal.outcome (policy.attempts - 1)),
        rehearsal.watchAfter policy.delayAfter? (policy.attempts - 1)) := by
  have hopen {i : Nat} : ((i + 1 : ℕ) : ℕ∞) ≤ rehearsal.firstSettled again :=
    Rehearsal.add_one_le_firstSettled_iff.2 fun j _ => hfails.not_settles j
  have hattempts : policy.attempts = 0 + (policy.attempts - 1) + 1 := by
    have hone : 1 ≤ policy.attempts := Nat.le_max_right _ _
    omega
  have hreached : ∀ j : ℕ, 0 + 1 ≤ j → (j : ℕ∞) < min (rehearsal.firstSettled again)
      ((0 + (policy.attempts - 1) + 1 : ℕ) : ℕ∞) → (policy.delayAfter? j).isSome := by
    intro j hone hless
    rw [← hattempts] at hless
    apply hdelays j hone
    exact_mod_cast (lt_min_iff.1 hless).2
  obtain ⟨last, hlast, hrun⟩ := Rehearsal.run_retryFrom hopen hreached
  obtain rfl : last = policy.attempts - 1 := by
    rw [min_eq_right hopen, Nat.zero_add] at hlast
    exact Nat.succ.inj (ENat.natCast_inj.1 hlast)
  exact hrun

/-- Without them the retry halts after a call that is not the last, the first one that needs a
    delay with no value. -/
theorem retryIf_halts (policy : RetryPolicy) (hfails : rehearsal.FailsAlways again)
    (hdelays : ¬ policy.DelaysDefined) : ∃ attempt, 1 ≤ attempt ∧ attempt < policy.attempts ∧
      policy.delayAfter? attempt = none ∧
      (retryIf policy again call).run.run (Watch.answer rehearsal) Watch.pass .start =
        (none, rehearsal.watchAfter policy.delayAfter? (attempt - 1)) := by
  classical
  have hexists : ∃ i, i + 1 < policy.attempts ∧ policy.delayAfter? (i + 1) = none := by
    simp only [DelaysDefined, not_forall, Option.not_isSome_iff_eq_none] at hdelays
    obtain ⟨attempt, hone, hless, hnone⟩ := hdelays
    refine ⟨attempt - 1, ?_, ?_⟩ <;> rwa [Nat.sub_add_cancel hone]
  obtain ⟨hless, hnone⟩ := Nat.find_spec hexists
  refine ⟨Nat.find hexists + 1, Nat.le_add_left _ _, hless, hnone, ?_⟩
  apply Rehearsal.run_retryFrom_halts hfails (Nat.zero_le _) _ _ hnone
  · omega
  · intro j _ hj
    have hdefined := Nat.find_min hexists hj
    rw [not_and] at hdefined
    exact Option.ne_none_iff_isSome.1 (hdefined (by omega))

end RetryPolicy

end Runs

end Courier

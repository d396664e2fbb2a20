import Mathlib.Algebra.BigOperators.Group.Finset.Basic
import Mathlib.Data.ENat.Lattice
import Courier.Proofs.Program.Rule

/-!
The course of an operation that is tried again. Its calls and the delays between them make a
timeline, which the outcomes of the calls determine: it goes on up to the first outcome that settles
the matter or up to the last attempt, whichever comes first. Attempts may be counted in words of 32
bits: the count never leaves them.
-/

namespace Courier

open Program

variable {ε α : Type}

/-- An operation whose calls are known beforehand. The first one has the number zero. -/
structure Rehearsal (ε α : Type) where
  outcome : Nat → Except ε α
  /-- The nanoseconds that a call takes. -/
  duration : Nat → Nat

inductive Moment where
  | called (clock : Nat)
  | slept (nanos : Nat)
  deriving DecidableEq, Repr

/-- What has happened since the first call, in order. -/
structure Watch where
  made : Nat
  clock : Nat
  moments : List Moment
  deriving DecidableEq, Repr

namespace Watch

def start : Watch := ⟨0, 0, []⟩

def answer (rehearsal : Rehearsal ε α) (_ : Unit) (watch : Watch) : Except ε α × Watch :=
  (rehearsal.outcome watch.made,
    ⟨watch.made + 1, watch.clock + rehearsal.duration watch.made,
      watch.moments ++ [.called watch.clock]⟩)

def pass (nanos : Nat) (watch : Watch) : Watch :=
  { watch with clock := watch.clock + nanos, moments := watch.moments ++ [.slept nanos] }

end Watch

/-- A single call. -/
def call : ExceptT ε (Program fun _ : Unit => Except ε α) α := question ()

/-- The outcome ends the attempts. -/
def Settles (again : ε → Bool) : Except ε α → Prop
  | .ok _ => True
  | .error e => again e = false

namespace Rehearsal

variable (rehearsal : Rehearsal ε α) (again : ε → Bool) (delay : Nat → Option Nat)

/-- The number of the first call that settles the matter, counted from one. -/
noncomputable def firstSettled : ℕ∞ :=
  ⨅ i ∈ {i | Settles again (rehearsal.outcome i)}, ((i + 1 : ℕ) : ℕ∞)

/-- The time at which a call starts: after all calls and delays before it. -/
def startOf (i : Nat) : Nat :=
  ∑ j ∈ Finset.range i, rehearsal.duration j + ∑ j ∈ Finset.range i, (delay (j + 1)).getD 0

/-- All that happens before a call. -/
def before : Nat → List Moment
  | 0 => []
  | i + 1 => before i ++ [.called (rehearsal.startOf delay i), .slept ((delay (i + 1)).getD 0)]

def watchBefore (i : Nat) : Watch := ⟨i, rehearsal.startOf delay i, rehearsal.before delay i⟩

/-- What has happened once a call is over. -/
def watchAfter (i : Nat) : Watch :=
  ⟨i + 1, rehearsal.startOf delay i + rehearsal.duration i,
    rehearsal.before delay i ++ [.called (rehearsal.startOf delay i)]⟩

variable {rehearsal again delay}

theorem add_one_le_firstSettled_iff {i : Nat} :
    ((i + 1 : ℕ) : ℕ∞) ≤ rehearsal.firstSettled again ↔
      ∀ j < i, ¬ Settles again (rehearsal.outcome j) := by
  rw [firstSettled, le_iInf₂_iff]
  refine forall_congr' fun j => ?_
  have hle : ((i + 1 : ℕ) : ℕ∞) ≤ ((j + 1 : ℕ) : ℕ∞) ↔ ¬ j < i := by
    norm_cast
    omega
  rw [hle, Set.mem_ofPred_eq]
  exact ⟨fun h hlt hsettles => h hsettles hlt, fun h hsettles hlt => h hlt hsettles⟩

/-- A call that settles the matter, none before it having done so, is the first such call. -/
theorem firstSettled_eq {i : Nat} (hopen : ((i + 1 : ℕ) : ℕ∞) ≤ rehearsal.firstSettled again)
    (hsettles : Settles again (rehearsal.outcome i)) :
    rehearsal.firstSettled again = ((i + 1 : ℕ) : ℕ∞) :=
  le_antisymm (iInf₂_le i hsettles) hopen

theorem add_two_le_firstSettled {i : Nat}
    (hopen : ((i + 1 : ℕ) : ℕ∞) ≤ rehearsal.firstSettled again)
    (hsettles : ¬ Settles again (rehearsal.outcome i)) :
    ((i + 1 + 1 : ℕ) : ℕ∞) ≤ rehearsal.firstSettled again := by
  rw [add_one_le_firstSettled_iff] at hopen ⊢
  intro j hj
  obtain hlt | rfl := Nat.lt_succ_iff_lt_or_eq.1 hj
  · exact hopen j hlt
  · exact hsettles

theorem run_call (i : Nat) :
    call.run.run (Watch.answer rehearsal) Watch.pass (rehearsal.watchBefore delay i) =
      (some (rehearsal.outcome i), rehearsal.watchAfter delay i) := rfl

theorem pass_watchAfter {i nanos : Nat} (h : delay (i + 1) = some nanos) :
    Watch.pass nanos (rehearsal.watchAfter delay i) = rehearsal.watchBefore delay (i + 1) := by
  have hstart : rehearsal.startOf delay (i + 1) =
      rehearsal.startOf delay i + rehearsal.duration i + nanos := by
    simp only [startOf, Finset.sum_range_succ, h, Option.getD_some]
    omega
  simp [Watch.pass, watchAfter, watchBefore, hstart, before, h]

/-- The course from a call on that no earlier one makes superfluous, with so many attempts left
    behind it. -/
theorem run_retryFrom {left i : Nat}
    (hopen : ((i + 1 : ℕ) : ℕ∞) ≤ rehearsal.firstSettled again)
    (hdelays : ∀ j, i + 1 ≤ j →
      (j : ℕ∞) < min (rehearsal.firstSettled again) ((i + left + 1 : ℕ) : ℕ∞) → (delay j).isSome) :
    ∃ last : Nat,
      ((last + 1 : ℕ) : ℕ∞) = min (rehearsal.firstSettled again) ((i + left + 1 : ℕ) : ℕ∞) ∧
      (retryFrom delay again call.run left (i + 1)).run (Watch.answer rehearsal) Watch.pass
          (rehearsal.watchBefore delay i) =
        (some (rehearsal.outcome last), rehearsal.watchAfter delay last) := by
  induction left generalizing i with
  | zero => exact ⟨i, (min_eq_right hopen).symm, run_call i⟩
  | succ left ih =>
    rw [retryFrom, run_bind_of_eq (run_call i)]
    -- A call that settles the matter is the last one, however many attempts are left.
    have hlast (hsettles : Settles again (rehearsal.outcome i)) :
        ((i + 1 : ℕ) : ℕ∞) =
          min (rehearsal.firstSettled again) ((i + (left + 1) + 1 : ℕ) : ℕ∞) := by
      rw [firstSettled_eq hopen hsettles, min_eq_left]
      exact_mod_cast (by omega : i + 1 ≤ i + (left + 1) + 1)
    cases houtcome : rehearsal.outcome i with
    | ok value =>
      rw [houtcome] at hlast
      exact ⟨i, hlast trivial, by rw [houtcome]; rfl⟩
    | error e =>
      rw [houtcome] at hlast
      cases hagain : again e with
      | false => exact ⟨i, hlast hagain, by rw [houtcome]; simp [hagain, run]⟩
      | true =>
        have hunsettled : ¬ Settles again (rehearsal.outcome i) := by
          rw [houtcome, Settles, hagain]
          exact Bool.noConfusion
        have hopen' := add_two_le_firstSettled hopen hunsettled
        have hleft : i + (left + 1) + 1 = i + 1 + left + 1 := by omega
        rw [hleft] at hdelays ⊢
        have hneeded : ((i + 1 : ℕ) : ℕ∞) <
            min (rehearsal.firstSettled again) ((i + 1 + left + 1 : ℕ) : ℕ∞) := by
          refine lt_min (lt_of_lt_of_le ?_ hopen') ?_
          · exact_mod_cast Nat.lt_succ_self (i + 1)
          · exact_mod_cast (by omega : i + 1 < i + 1 + left + 1)
        obtain ⟨nanos, hnanos⟩ :=
          Option.isSome_iff_exists.1 (hdelays (i + 1) Nat.le.refl hneeded)
        simp only [hagain, if_true, hnanos, run, pass_watchAfter hnanos]
        exact ih hopen' fun j hj => hdelays j (by omega)

end Rehearsal

/-- Trying an operation again makes its attempts where single calls are tried again. -/
theorem retryFrom_eq_serve {Op : Type} {Answer : Op → Type} (delay : Nat → Option Nat)
    (again : ε → Bool) (operation : Program Answer (Except ε α)) (left attempt : Nat) :
    retryFrom delay again operation left attempt =
      serve (fun _ : Unit => operation) (retryFrom delay again call.run left attempt) := by
  induction left generalizing attempt with
  | zero => exact (bind_done operation).symm
  | succ left ih =>
    refine congrArg operation.bind (funext fun result => ?_)
    cases result with
    | ok value => rfl
    | error e =>
      dsimp only [Program.bind]
      split
      · cases delay attempt with
        | none => rfl
        | some nanos => exact congrArg (Program.wait nanos) (ih (attempt + 1))
      · rfl

/-- A word that is below another one has room for one more. -/
theorem toNat_add_one_of_lt {count last : UInt32} (h : count < last) :
    (count + 1).toNat = count.toNat + 1 := by
  have hlast := last.toNat_lt
  rw [UInt32.lt_iff_toNat_lt] at h
  rw [UInt32.toNat_add, UInt32.toNat_one, Nat.mod_eq_of_lt (by omega)]

/-- The attempt with the given number and those that follow it, counted in a word of 32 bits. -/
def retryCounted {Op : Type} {Answer : Op → Type} (delay : Nat → Option Nat) (again : ε → Bool)
    (operation : Program Answer (Except ε α)) (last attempt : UInt32) :
    Program Answer (Except ε α) :=
  operation.bind fun
    | .ok value => .done (.ok value)
    | .error e =>
      if _ : attempt < last ∧ again e then
        match delay attempt.toNat with
        | some nanos => .wait nanos (retryCounted delay again operation last (attempt + 1))
        | none => .halt
      else .done (.error e)
termination_by last.toNat - attempt.toNat
decreasing_by
  rename_i hmore
  have hless := UInt32.lt_iff_toNat_lt.1 hmore.1
  rw [toNat_add_one_of_lt hmore.1]
  omega

/-- The word counts as a number does. -/
theorem retryFrom_eq_counted {Op : Type} {Answer : Op → Type} {delay : Nat → Option Nat}
    {again : ε → Bool} {operation : Program Answer (Except ε α)} {left : Nat}
    {last attempt : UInt32} (h : attempt.toNat + left = last.toNat) :
    retryFrom delay again operation left attempt.toNat =
      retryCounted delay again operation last attempt := by
  induction left generalizing attempt with
  | zero =>
    have hlast : ¬ attempt < last := by
      rw [UInt32.lt_iff_toNat_lt]
      omega
    rw [retryCounted, retryFrom]
    refine (bind_done operation).symm.trans (congrArg operation.bind (funext fun result => ?_))
    cases result with
    | ok value => rfl
    | error e => simp [hlast]
  | succ left ih =>
    have hlast : attempt < last := by
      rw [UInt32.lt_iff_toNat_lt]
      omega
    have hnext := toNat_add_one_of_lt hlast
    have hrest : retryFrom delay again operation left (attempt.toNat + 1) =
        retryCounted delay again operation last (attempt + 1) := by
      rw [← hnext, ih (by omega)]
    rw [retryCounted, retryFrom]
    refine congrArg operation.bind (funext fun result => ?_)
    cases result with
    | ok value => rfl
    | error e => cases delay attempt.toNat <;> simp [hlast, hrest]

namespace RetryPolicy

/-- The contract of trying again. A single call is repeated up to the first outcome that settles the
    matter, or up to the last attempt if that comes first; the last outcome is the result. Every
    call but the last is followed by the delay for its number, nothing follows the last one, and
    apart from calls and delays no time passes. Any operation is repeated as a single call is, and a
    word of 32 bits counts the attempts without overflow. -/
theorem retryIf_course (policy : RetryPolicy) (again : ε → Bool) (rehearsal : Rehearsal ε α)
    (hdelays : ∀ i : Nat, 1 ≤ i → (i : ℕ∞) < min (rehearsal.firstSettled again) policy.attempts →
      (policy.delayAfter? i).isSome) :
    (∃ last : Nat,
      ((last + 1 : ℕ) : ℕ∞) = min (rehearsal.firstSettled again) policy.attempts ∧
      (retryIf policy again call).run.run (Watch.answer rehearsal) Watch.pass .start =
        (some (rehearsal.outcome last), rehearsal.watchAfter policy.delayAfter? last)) ∧
    ((∀ i, rehearsal.duration i = 0) → ∀ i, rehearsal.startOf policy.delayAfter? i =
      ∑ j ∈ Finset.range i, (policy.delayAfter? (j + 1)).getD 0) ∧
    ∀ {Op : Type} {Answer : Op → Type} (operation : ExceptT ε (Program Answer) α),
      (retryIf policy again operation).run =
          serve (fun _ => operation.run) (retryIf policy again call).run ∧
      (retryIf policy again operation).run =
          retryCounted policy.delayAfter? again operation.run (max policy.maxAttempts 1) 1 := by
  have hattempts : policy.attempts = 0 + (policy.attempts - 1) + 1 := by
    have hone : 1 ≤ policy.attempts := Nat.le_max_right _ _
    omega
  refine ⟨?_, fun hinstant i => ?_, fun operation => ⟨retryFrom_eq_serve _ _ _ _ _, ?_⟩⟩
  · rw [hattempts] at hdelays ⊢
    exact Rehearsal.run_retryFrom (Rehearsal.add_one_le_firstSettled_iff.2 nofun) hdelays
  · simp [Rehearsal.startOf, hinstant]
  · have hlast : (max policy.maxAttempts 1).toNat = policy.attempts := UInt32.toNat_max _ _
    have hcount : (1 : UInt32).toNat + (policy.attempts - 1) =
        (max policy.maxAttempts 1).toNat := by
      rw [hlast, UInt32.toNat_one]
      omega
    exact retryFrom_eq_counted hcount

/-- The third of at most three attempts succeeds. -/
theorem retryIf_course_thirdAttempt :
    let policy : RetryPolicy := ⟨3, 100000000, .ofNat 2⟩
    let rehearsal : Rehearsal Unit Unit :=
      ⟨fun i => if i < 2 then .error () else .ok (), fun _ => 0⟩
    (∀ i : Nat, 1 ≤ i →
      (i : ℕ∞) < min (rehearsal.firstSettled fun _ => true) policy.attempts →
        (policy.delayAfter? i).isSome) ∧
    (retryIf policy (fun _ => true) call).run.run (Watch.answer rehearsal) Watch.pass .start =
      (some (.ok ()), ⟨3, 300000000, [.called 0, .slept 100000000, .called 100000000,
        .slept 200000000, .called 300000000]⟩) := by
  intro policy rehearsal
  have hdelays : ∀ i : Nat, 1 ≤ i →
      (i : ℕ∞) < min (rehearsal.firstSettled fun _ => true) policy.attempts →
        (policy.delayAfter? i).isSome := by
    intro i hone hless
    have hthree : i < 3 := by exact_mod_cast (lt_min_iff.1 hless).2
    obtain rfl | rfl : i = 1 ∨ i = 2 := by omega
    · decide +kernel
    · decide +kernel
  refine ⟨hdelays, ?_⟩
  obtain ⟨⟨last, hlast, hrun⟩, -, -⟩ := retryIf_course policy (fun _ => true) rehearsal hdelays
  have hfirst : ((2 + 1 : ℕ) : ℕ∞) ≤ rehearsal.firstSettled fun _ => true := by
    refine Rehearsal.add_one_le_firstSettled_iff.2 fun j hj => ?_
    simp [rehearsal, hj, Settles]
  obtain rfl : last = 2 := by
    exact Nat.succ.inj (ENat.natCast_inj.1 (hlast.trans (min_eq_right hfirst)))
  rw [hrun]
  decide +kernel

end RetryPolicy

end Courier

import Courier.Proofs.Backoff.Growth
import Courier.Proofs.Settings.BlockList

/-!
The patience that an environment can ask for. Attempts, first delay and multiplier of a policy are
read apart, and no check looks at them together: `Settings.patience_of_read` tells which policies last
up to their last attempt, and where the others halt.
-/

namespace Courier

open Binary64

attribute [local irreducible] unitsOfOne overflowUnits

namespace Binary64

theorem valid_ofDecimal (negative : Bool) (digits : Nat) (exponent : Int) :
    (ofDecimal negative digits exponent).Valid := by
  have hten (places : Nat) : 0 < Nat.pow 10 places := Nat.pow_pos (by decide)
  unfold ofDecimal
  split
  · exact valid_zero negative
  · dsimp only
    split
    · trivial
    · split
      · exact valid_zero negative
      · split
        · exact valid_ofRatio _ _ Nat.one_pos
        · exact valid_ofRatio _ _ (hten _)

end Binary64

/-- A text writes a number of the format. -/
theorem Scientific.valid_of_read? {s : String} {number : Binary64} (h : read? s = some number) :
    number.Valid := by
  have hunsigned {negative : Bool} {cs : List Char} {number : Binary64}
      (h : readUnsigned? negative cs = some number) : number.Valid := by
    unfold readUnsigned? at h
    dsimp only at h
    split at h
    · cases h
      trivial
    · split at h
      · cases h
        trivial
      · obtain ⟨digits, -, h⟩ := Option.bind_eq_some_iff.1 h
        obtain ⟨exponent, -, rfl⟩ := Option.map_eq_some_iff.1 h
        exact valid_ofDecimal _ _ _
  unfold read? at h
  split at h <;> exact hunsigned h

/-- What is read is the default, or what a text means. -/
theorem Environment.of_readOr {α : Type} {read? : String → Option α} {env : Environment}
    {name : String} {default value : α} (h : readOr read? env name default = .ok value) :
    value = default ∨ ∃ s, read? s = some value := by
  unfold readOr at h
  split at h
  · cases h
    exact .inl rfl
  · next s _ =>
    split at h
    · next hmeant =>
      cases h
      exact .inr ⟨s, hmeant⟩
    · cases h

namespace RetryPolicy

variable {env : Environment} {policy : RetryPolicy}

/-- A policy off the environment is in range if its defaults are. -/
theorem inRange_of_read {stem : String} {standard : RetryPolicy} (hstandard : standard.InRange)
    (h : read env stem standard = .ok policy) : policy.InRange := by
  obtain ⟨attempts, -, h⟩ := bind_eq_ok_iff.1 h
  obtain ⟨millis, hmillis, h⟩ := bind_eq_ok_iff.1 h
  obtain ⟨multiplier, hmultiplier, h⟩ := bind_eq_ok_iff.1 h
  cases h
  constructor
  · obtain rfl | ⟨s, hs⟩ := Environment.of_readOr hmillis
    · have hdefault := hstandard.initialDelay
      dsimp only
      omega
    · have hword : millis < Nat.pow 2 64 := by
        simpa using (Option.filter_eq_some_iff.1 hs).2
      exact Nat.mul_lt_mul_of_pos_right hword (by decide)
  · obtain rfl | ⟨s, hs⟩ := Environment.of_readOr hmultiplier
    · exact hstandard.multiplier
    · exact Scientific.valid_of_read? hs

theorem inRange_standard : standard.InRange := ⟨by decide, valid_ofNat 2⟩

theorem inRange_keyService : keyService.InRange := ⟨by decide, valid_ofNat 2⟩

end RetryPolicy

namespace RetryPolicies

def all (retries : RetryPolicies) : List RetryPolicy :=
  [retries.keyService, retries.delivery, retries.objectStore, retries.statusTable,
    retries.notification, retries.indicator]

theorem inRange_of_read {env : Environment} {retries : RetryPolicies} (h : read env = .ok retries) :
    ∀ policy ∈ retries.all, policy.InRange := by
  obtain ⟨keyService, hkeyService, h⟩ := bind_eq_ok_iff.1 h
  obtain ⟨delivery, hdelivery, h⟩ := bind_eq_ok_iff.1 h
  obtain ⟨objectStore, hobjectStore, h⟩ := bind_eq_ok_iff.1 h
  obtain ⟨statusTable, hstatusTable, h⟩ := bind_eq_ok_iff.1 h
  obtain ⟨notification, hnotification, h⟩ := bind_eq_ok_iff.1 h
  obtain ⟨indicator, hindicator, h⟩ := bind_eq_ok_iff.1 h
  cases h
  have hread {stem : String} {policy : RetryPolicy}
      (h : RetryPolicy.read env stem .standard = .ok policy) : policy.InRange :=
    RetryPolicy.inRange_of_read RetryPolicy.inRange_standard h
  simp only [all, List.forall_mem_cons, List.not_mem_nil, false_implies, implies_true, and_true]
  exact ⟨RetryPolicy.inRange_of_read RetryPolicy.inRange_keyService hkeyService, hread hdelivery,
    hread hobjectStore, hread hstatusTable, hread hnotification, hread hindicator⟩

end RetryPolicies

namespace Settings

variable {env : Environment} {settings : Settings} {policy : RetryPolicy}

theorem retries_of_read (h : Settings.read env = .ok settings) :
    RetryPolicies.read env = .ok settings.retries := by
  obtain ⟨storage, -, h⟩ := bind_eq_ok_iff.1 h
  obtain ⟨run, -, h⟩ := bind_eq_ok_iff.1 h
  obtain ⟨keyService, -, h⟩ := bind_eq_ok_iff.1 h
  obtain ⟨ingestion, -, h⟩ := bind_eq_ok_iff.1 h
  obtain ⟨handling, -, h⟩ := bind_eq_ok_iff.1 h
  obtain ⟨retries, hread, h⟩ := bind_eq_ok_iff.1 h
  cases h
  exact hread

/-- Of each policy that an environment gives, one delay tells whether all have values: the longest.
    If it has one, a retry that fails all the time makes every attempt and ends with the last
    failure. If it has none, the retry halts on the way, after the first attempt whose delay has
    none. -/
theorem patience_of_read (hread : Settings.read env = .ok settings)
    (hpolicy : policy ∈ settings.retries.all) :
    (policy.DelaysDefined ↔ (policy.delayAfter? policy.longest).isSome) ∧
    ∀ {ε α : Type} (again : ε → Bool) (rehearsal : Rehearsal ε α), rehearsal.FailsAlways again →
      (policy.DelaysDefined →
        (retryIf policy again call).run.run (Watch.answer rehearsal) Watch.pass .start =
          (some (rehearsal.outcome (policy.attempts - 1)),
            rehearsal.watchAfter policy.delayAfter? (policy.attempts - 1))) ∧
      (¬ policy.DelaysDefined → ∃ attempt, 1 ≤ attempt ∧ attempt < policy.attempts ∧
        policy.delayAfter? attempt = none ∧
        (retryIf policy again call).run.run (Watch.answer rehearsal) Watch.pass .start =
          (none, rehearsal.watchAfter policy.delayAfter? (attempt - 1))) := by
  have hrange := RetryPolicies.inRange_of_read (retries_of_read hread) policy hpolicy
  refine ⟨RetryPolicy.delaysDefined_iff hrange, fun again rehearsal hfails => ⟨?_, ?_⟩⟩
  · exact RetryPolicy.retryIf_exhausts policy hfails
  · exact RetryPolicy.retryIf_halts policy hfails

namespace Sample

/-- An environment in which reads of the object store are tried three times without a delay, but
    the multiplier is infinite. -/
def impatient : Environment :=
  (Launch.Sample.machineWith [("S3_RETRY_MAX_ATTEMPTS", "3"), ("S3_RETRY_DELAY_MS", "0"),
    ("S3_RETRY_MULTIPLIER", "inf")] []).environment

/-- Every call fails at once, with its number. -/
def failures : Rehearsal Nat Unit := ⟨.error, fun _ => 0⟩

theorem exists_read_impatient : ∃ settings, Settings.read impatient = .ok settings ∧
    settings.check = .ok () ∧ settings.retries.objectStore = ⟨3, 0, .infinite false⟩ ∧
    settings.retries.delivery = .standard := by
  have hread : (Settings.read impatient).toOption.any (fun settings =>
      settings.check.toOption.isSome && settings.retries.objectStore == ⟨3, 0, .infinite false⟩ &&
        settings.retries.delivery == .standard) = true := by
    decide +kernel
  cases hsettings : Settings.read impatient with
  | error e =>
    rw [hsettings] at hread
    cases hread
  | ok settings =>
    rw [hsettings] at hread
    simp only [Except.toOption, Option.any_some, Bool.and_eq_true, beq_iff_eq] at hread
    obtain ⟨⟨hcheck, hstore⟩, hdelivery⟩ := hread
    refine ⟨settings, rfl, ?_, hstore, hdelivery⟩
    cases h : settings.check with
    | error e =>
      rw [h] at hcheck
      cases hcheck
    | ok value => rfl

end Sample

open Settings.Sample

theorem patience_of_read_impatient : ∃ settings, Settings.read impatient = .ok settings ∧
    settings.retries.objectStore ∈ settings.retries.all ∧
    settings.retries.delivery ∈ settings.retries.all ∧ failures.FailsAlways (fun _ => true) ∧
    ¬ settings.retries.objectStore.DelaysDefined ∧
    ((retryIf settings.retries.objectStore (fun _ => true) call).run.run (Watch.answer failures)
      Watch.pass .start).1 = none ∧
    settings.retries.delivery.DelaysDefined ∧
    ((retryIf settings.retries.delivery (fun _ => true) call).run.run (Watch.answer failures)
      Watch.pass .start).1 = some (.error 4) := by
  obtain ⟨settings, hread, -, hstore, hdelivery⟩ := exists_read_impatient
  have hstoreMem : settings.retries.objectStore ∈ settings.retries.all := by
    simp [RetryPolicies.all]
  have hdeliveryMem : settings.retries.delivery ∈ settings.retries.all := by
    simp [RetryPolicies.all]
  have hfails : failures.FailsAlways (fun _ => true) := fun i => ⟨i, rfl, rfl⟩
  obtain ⟨hstoreLasts, hstoreRuns⟩ := patience_of_read hread hstoreMem
  obtain ⟨hdeliveryLasts, hdeliveryRuns⟩ := patience_of_read hread hdeliveryMem
  have hundefined : ¬ settings.retries.objectStore.DelaysDefined := by
    rw [hstoreLasts, hstore]
    decide +kernel
  have hdefined : settings.retries.delivery.DelaysDefined := by
    rw [hdeliveryLasts, hdelivery]
    decide +kernel
  refine ⟨settings, hread, hstoreMem, hdeliveryMem, hfails, hundefined, ?_, hdefined, ?_⟩
  · obtain ⟨attempt, -, -, -, hrun⟩ := (hstoreRuns _ _ hfails).2 hundefined
    rw [hrun]
  · rw [(hdeliveryRuns _ _ hfails).1 hdefined, hdelivery]
    rfl

/-- The settings pass the check, and still the second of three attempts is the last one: the delay
    after it has no value. -/
theorem impatient_halts : ∃ settings policy, Settings.read impatient = .ok settings ∧
    settings.check = .ok () ∧ policy ∈ settings.retries.all ∧ policy.attempts = 3 ∧
    policy.delayAfter? 2 = none ∧
    (retryIf policy (fun _ => true) call).run.run (Watch.answer failures) Watch.pass .start =
      (none, ⟨2, 0, [.called 0, .slept 0, .called 0]⟩) := by
  obtain ⟨settings, hread, hcheck, hstore, -⟩ := exists_read_impatient
  refine ⟨settings, settings.retries.objectStore, hread, hcheck, by simp [RetryPolicies.all], ?_⟩
  rw [hstore]
  decide +kernel

end Settings

end Courier

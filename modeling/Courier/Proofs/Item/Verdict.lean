import Courier.Proofs.Item.Account
import Courier.Proofs.Memory.FaultFree
import Courier.Proofs.Program.Oracle

/-!
What becomes of an object if no call fails by plan. The collaborators at one moment are an oracle
for the work on it, which makes no difference between the counts it may be told. A delivered object
has one accepted delivery, one marker and one count in its script, an object that is skipped or
rejected none of them.
-/

namespace Courier

namespace Memory.World

/-- What a call would be told at this moment. -/
def told (world : World) (call : Call) : call.Answer := (world.perform call).1

end Memory.World

namespace Item

open Memory Program

/-- Two answers to a call are the same, or both tell a count. -/
def Alike (call : Call) (answer answer' : call.Answer) : Prop :=
  answer = answer' ∨ kindOf call = .increment ∧ answer.toOption.isSome ∧ answer'.toOption.isSome

theorem eq_of_alike {call : Call} (hkind : kindOf call ≠ .increment) (answer answer' : call.Answer)
    (h : Alike call answer answer') : answer = answer' :=
  h.resolve_right fun hcounts => hkind hcounts.1

section Blind

variable (settings : Settings) (key : String)

theorem blind_errand (call : Call) (hkind : kindOf call ≠ .increment) :
    Blind Alike call.errand.run := .question (eq_of_alike hkind)

theorem attempt_blind (headers : FileHeaders) :
    Blind Alike (attempt settings key headers).run := by
  unfold attempt
  refine (Blind.retryIf (blind_errand (.get key) nofun)).andThen fun object => ?_
  refine Blind.andThen .done fun envelope => ?_
  refine (blind_errand (.unwrap _ _) nofun).andThen fun dataKey => ?_
  exact Blind.andThen .done fun stream => blind_errand (.deliver _ _) nofun

theorem deliverOrReject_blind : Blind Alike (deliverOrReject settings key).run := by
  have hdeliver : Blind Alike (deliver settings key).run :=
    Blind.andThen .done fun topic => Blind.retryIf (attempt_blind settings key _)
  refine Blind.orElse (hdeliver.andThen fun _ => .done) fun failure => ?_
  split <;> exact .done

/-- A program that goes on in the same way after every count is blind to the difference. -/
theorem blind_countCall {next : Except Failure Int → Program Call.Answer (Except Failure Unit)}
    {rest : Program Call.Answer (Except Failure Unit)} (hok : ∀ count, next (.ok count) = rest)
    (hrest : Blind Alike rest) (herror : ∀ failure, Blind Alike (next (.error failure))) :
    Blind Alike (.ask (countCall settings) next) := by
  refine .ask (fun answer answer' halike => ?_) fun answer => ?_
  · obtain rfl | ⟨-, hanswer, hanswer'⟩ := halike
    · rfl
    · cases answer with
      | error failure => cases hanswer
      | ok count =>
        cases answer' with
        | error failure => cases hanswer'
        | ok count' => exact (hok count).trans (hok count').symm
  · cases answer with
    | error failure => exact herror failure
    | ok count => exact (hok count).symm ▸ hrest

theorem countFrom_blind (delay : Nat → Option Nat) (left attempt : Nat) :
    Blind Alike ((retryFrom delay (fun _ => true) (countCall settings).errand.run left
      attempt).bind (ExceptT.bindCont fun _ : Int => (pure () : Errand Unit))) := by
  induction left generalizing attempt with
  | zero => exact blind_countCall settings (fun _ => rfl) .done fun _ => .done
  | succ left ih =>
    refine blind_countCall settings (fun _ => rfl) .done fun failure => ?_
    simp only [Program.bind, if_true]
    cases delay attempt with
    | none => exact .halt
    | some nanos => exact .wait (ih (attempt + 1))

theorem count_blind (policy : RetryPolicy) : Blind Alike
    (retry policy (countCall settings).errand >>= fun _ : Int => (pure () : Errand Unit)).run :=
  countFrom_blind settings policy.delayAfter? (policy.attempts - 1) 1

theorem countSent_blind : Blind Alike (Tracker.ofSettings settings).countSent.run := by
  unfold Tracker.countSent
  exact count_blind settings _

theorem process_blind : Blind Alike (process settings key).run := by
  have hsent : Blind Alike (alreadySent settings key).run := by
    unfold alreadySent
    split
    · exact .done
    · exact Blind.retryIf (blind_errand (.contains _) nofun)
  have hmarker : Blind Alike (writeMarker settings key).run :=
    (Blind.retryIf (blind_errand (markerPut settings key) nofun)).andThen fun _ => .done
  unfold process
  refine hsent.andThen fun sent => ?_
  split
  · exact .done
  · refine (deliverOrReject_blind settings key).andThen fun rejection => ?_
    cases rejection with
    | some reason => exact .done
    | none => exact hmarker.andThen fun _ => (countSent_blind settings).andThen fun _ => .done

end Blind

section Milestones

/-- What a call achieves in the work on an object, unless it fails by plan: the object is delivered,
    its marker is written, or it is counted. Any other call achieves nothing. -/
def milestone : Call → Nat
  | .deliver _ body => if body.bytes.toOption.isSome then 1 else 0
  | .put .. => 2
  | .increment .. => 3
  | _ => 0

theorem milestone_le_one {call : Call} (h : (kindOf call).writes = false) : milestone call ≤ 1 := by
  cases call with
  | deliver headers body =>
    rw [milestone]
    split <;> decide
  | put | increment | transition => cases h
  | _ => exact Nat.zero_le 1

/-- The milestones that have been passed in a phase. -/
def Phase.passed : Phase → Nat
  | .accepted => 1
  | .marked _ => 2
  | .counted => 3
  | _ => 0

variable {settings : Settings} {key : String} {world : World}

/-- An oracle that knows the collaborators leads the work on an object past the milestones, each in
    its turn. -/
theorem passed_next {phase : Phase} {call : Call} (hallowed : (rule settings key).allows phase call) :
    (milestone call = 0 ∧ (phase.next ⟨call, world.told call⟩).passed = phase.passed) ∨
      (milestone call = phase.passed + 1 ∧
        (phase.next ⟨call, world.told call⟩).passed = phase.passed + 1) := by
  cases phase with
  | unchecked =>
    cases hallowed
    refine .inl ⟨rfl, ?_⟩
    rw [World.told, World.perform]
    cases (find? world.objects (markerKey settings key)).isSome <;> rfl
  | cleared =>
    cases hallowed with
    | get | unwrap => exact .inl ⟨rfl, rfl⟩
    | deliver topic htopic body =>
      rw [World.told, World.perform, milestone]
      cases body.bytes with
      | ok bytes => exact .inr ⟨rfl, rfl⟩
      | error fault => exact .inl ⟨rfl, rfl⟩
  | accepted =>
    cases hallowed
    exact .inr ⟨rfl, rfl⟩
  | marked failures =>
    cases hallowed
    exact .inr ⟨rfl, rfl⟩
  | skipping | counted => exact hallowed.elim

/-- The script of a delivered object passes every milestone once, and that of an object which is
    skipped or rejected none. -/
theorem countP_milestone {outcome : ItemOutcome}
    (h : verdict world.told (process settings key).run = some (.ok outcome)) {stone : Nat}
    (hfirst : 1 ≤ stone) (hlast : stone ≤ 3) :
    ((process settings key).run.script world.told).countP (milestone · = stone) =
      if outcome = .delivered then 1 else 0 := by
  have hweight (phase : Phase) (call : Call) (hallowed : (rule settings key).allows phase call) :
      (if stone ≤ (phase.next ⟨call, world.told call⟩).passed then 1 else 0) =
        (if stone ≤ phase.passed then 1 else 0) +
          if decide (milestone call = stone) = true then 1 else 0 := by
    simp only [decide_eq_true_eq]
    have hpast := @passed_next settings key world phase call hallowed
    obtain ⟨hmilestone, hpassed⟩ | ⟨hmilestone, hpassed⟩ := hpast
    · have hother : milestone call ≠ stone := by omega
      rw [hpassed, if_neg hother, Nat.add_zero]
    · rw [hpassed, hmilestone]
      split <;> split <;> split <;> omega
  have hstart : ¬ stone ≤ (firstPhase settings).passed := by
    unfold firstPhase
    split <;> exact Nat.not_le_of_lt hfirst
  obtain ⟨last, hends, hcount⟩ := (process_follows settings key).exists_of_verdict
    (fun phase => if stone ≤ phase.passed then 1 else 0) _ hweight h
  rw [if_neg hstart, Nat.zero_add] at hcount
  rw [← hcount]
  cases last with
  | skipping =>
    cases hends
    exact if_neg (Nat.not_le_of_lt hfirst)
  | cleared =>
    obtain ⟨reason, ⟨⟩, -⟩ | ⟨failure, ⟨⟩, -⟩ := hends
    exact if_neg (Nat.not_le_of_lt hfirst)
  | counted =>
    cases hends
    exact if_pos hlast
  | unchecked | accepted => obtain ⟨failure, ⟨⟩⟩ := hends
  | marked failures => obtain ⟨-, failure, ⟨⟩⟩ := hends

end Milestones

section Rejection

variable {settings : Settings} {key : String} {world : World}

/-- A program over the collaborators that ends with a failure for good has not tried to deliver. -/
def Spared {α : Type} (world : World) (errand : Errand α) : Prop :=
  ∀ failure, verdict world.told errand.run = some (.error failure) → failure.isPermanent →
    ∀ call ∈ errand.run.script world.told, kindOf call ≠ .deliver

/-- A failure for good is never worth another attempt. -/
theorem not_isDeliveryRetryable {failure : Failure} (h : failure.isPermanent) :
    failure.isDeliveryRetryable = false := by
  unfold Failure.isPermanent at h
  unfold Failure.isDeliveryRetryable
  cases hkind : failure.kind <;> simp_all [FailureKind.isPermanent, FailureKind.isDeliveryRetryable]

theorem Spared.andThen {α β : Type} {first : Errand β} {f : β → Errand α}
    (h : Makes (kindOf · ≠ .deliver) first.run) (hf : ∀ value, Spared world (f value)) :
    Spared world (first >>= f) := by
  intro failure hverdict hpermanent call hcall
  obtain hfirst | ⟨middle, hfirst, hrest⟩ := verdict_error_cases hverdict
  · rw [script_andThen_of_error hfirst] at hcall
    exact h.script call hcall
  · rw [script_andThen_of_ok hfirst] at hcall
    obtain hcall | hcall := List.mem_append.1 hcall
    · exact h.script call hcall
    · exact hf middle failure hrest hpermanent call hcall

theorem Spared.retryIf {α : Type} {policy : RetryPolicy} {again : Failure → Bool}
    {operation : Errand α} (h : Spared world operation)
    (hagain : ∀ failure, failure.isPermanent → again failure = false) :
    Spared world (retryIf policy again operation) := by
  intro failure hverdict hpermanent call hcall
  have hattempt := verdict_retryFrom _ _ hverdict
  have hscript : (retryFrom policy.delayAfter? again operation.run (policy.attempts - 1) 1).script
      world.told = operation.run.script world.told :=
    script_retryFrom _ _ hattempt (hagain failure hpermanent)
  exact h failure hattempt hpermanent call (hscript ▸ hcall)

theorem attempt_spared (headers : FileHeaders) : Spared world (attempt settings key headers) := by
  unfold attempt
  have hget : Makes (kindOf · ≠ .deliver)
      (retry settings.retries.objectStore (Call.get key).errand).run :=
    Makes.retryIf (Call.makes_errand nofun)
  refine Spared.andThen hget fun object => Spared.andThen (.done _) fun envelope => ?_
  refine Spared.andThen (Call.makes_errand nofun) fun dataKey =>
    Spared.andThen (.done _) fun stream => ?_
  -- a delivery can only fail for a reason that passes
  intro failure hverdict hpermanent
  have hresult : world.told (.deliver (headers.pairs settings.run)
      (object.body.decrypted stream)) = .error failure := Option.some.inj hverdict
  rw [World.told, World.perform] at hresult
  split at hresult
  · cases hresult
  · cases hresult
    cases hpermanent

theorem deliver_spared : Spared world (deliver settings key) :=
  Spared.andThen (.done _) fun _ =>
    (attempt_spared _).retryIf fun _ hpermanent => not_isDeliveryRetryable hpermanent

/-- An object is rejected because its delivery has failed for good. -/
theorem verdict_deliver_of_rejected {reason : Failure}
    (h : verdict world.told (deliverOrReject settings key).run = some (.ok (some reason))) :
    verdict world.told (deliver settings key).run = some (.error reason) ∧ reason.isPermanent ∧
      (deliverOrReject settings key).run.script world.told =
        (deliver settings key).run.script world.told := by
  unfold deliverOrReject at h ⊢
  obtain ⟨hok, -⟩ | ⟨failure, herror, hhandle⟩ := verdict_orElse_cases h
  · obtain ⟨-, -, hnone⟩ := exists_of_verdict_ok hok
    cases hnone
  · have hdeliver : verdict world.told (deliver settings key).run = some (.error failure) := by
      obtain hfirst | ⟨-, -, hnone⟩ := verdict_error_cases herror
      · exact hfirst
      · cases hnone
    rw [script_orElse_of_error herror, script_andThen_of_error hdeliver]
    by_cases hpermanent : failure.isPermanent
    · simp only [hpermanent, if_true] at hhandle ⊢
      cases hhandle
      exact ⟨hdeliver, hpermanent, List.append_nil _⟩
    · simp only [hpermanent] at hhandle
      cases hhandle

theorem alreadySent_spared : Makes (kindOf · ≠ .deliver) (alreadySent settings key).run := by
  unfold alreadySent
  split
  · exact .done _
  · exact Makes.retryIf (Call.makes_errand nofun)

/-- The script of an object that is not delivered holds no call to the ingestion side. -/
theorem ne_deliver_of_ne_delivered {outcome : ItemOutcome}
    (h : verdict world.told (process settings key).run = some (.ok outcome))
    (hne : outcome ≠ .delivered) :
    ∀ call ∈ (process settings key).run.script world.told, kindOf call ≠ .deliver := by
  unfold process at h ⊢
  obtain ⟨sent, halready, hrest⟩ := exists_of_verdict_ok h
  rw [script_andThen_of_ok halready]
  intro call hcall
  obtain hcall | hcall := List.mem_append.1 hcall
  · exact alreadySent_spared.script call hcall
  cases sent with
  | true => cases hcall
  | false =>
    obtain ⟨rejection, hdelivery, hlast⟩ := exists_of_verdict_ok hrest
    cases rejection with
    | none =>
      obtain ⟨-, -, hcounted⟩ := exists_of_verdict_ok hlast
      obtain ⟨-, -, hdelivered⟩ := exists_of_verdict_ok hcounted
      cases hdelivered
      exact absurd rfl hne
    | some reason =>
      obtain ⟨hdeliver, hpermanent, hscript⟩ := verdict_deliver_of_rejected hdelivery
      simp only [Bool.false_eq_true, if_false] at hcall
      rw [script_andThen_of_ok hdelivery, hscript] at hcall
      obtain hcall | hcall := List.mem_append.1 hcall
      · exact deliver_spared reason hdeliver hpermanent call hcall
      · cases hcall

/-- Nor does it hold a call that writes anything. -/
theorem unwritten_of_ne_delivered {outcome : ItemOutcome}
    (h : verdict world.told (process settings key).run = some (.ok outcome))
    (hne : outcome ≠ .delivered) :
    ∀ call ∈ (process settings key).run.script world.told, (kindOf call).writes = false := by
  have hnone {stone : Nat} (hfirst : 1 ≤ stone) (hlast : stone ≤ 3) :
      ∀ call ∈ (process settings key).run.script world.told, milestone call ≠ stone := by
    have hcount := countP_milestone h hfirst hlast
    rw [if_neg hne, List.countP_eq_zero] at hcount
    exact fun call hcall hstone => hcount call hcall (decide_eq_true hstone)
  intro call hcall
  obtain rfl | rfl | hquiet := ((process_makes settings key).script call hcall).writes_cases
  · have hput : milestone (markerPut settings key) ≠ 2 := hnone (by decide) (by decide) _ hcall
    exact absurd rfl hput
  · have hcount : milestone (countCall settings) ≠ 3 := hnone (by decide) (by decide) _ hcall
    exact absurd rfl hcount
  · exact hquiet

end Rejection

/-- An object with a marker is skipped, unless a run sends all objects again. -/
theorem verdict_of_marker {settings : Settings} {key : String} {world : World}
    (hoff : settings.run.reprocess = false)
    (hmarker : (find? world.objects (markerKey settings key)).isSome) :
    verdict world.told (process settings key).run = some (.ok .skipped) := by
  have hfound : verdict world.told (Call.contains (markerKey settings key)).errand.run =
      some (.ok true) := congrArg (some ∘ Except.ok) hmarker
  have hsent : verdict world.told (alreadySent settings key).run = some (.ok true) := by
    unfold alreadySent
    rw [hoff]
    exact verdict_retryFrom_of_ok _ _ hfound
  unfold process
  rw [verdict_andThen, hsent]
  rfl

end Item

end Courier

import Courier.Proofs.Export.Topic
import Courier.Proofs.Fallible
import Courier.Proofs.Item.Phase
import Courier.Proofs.Program.Trace

/-!
Where failures come from. A failure of the delivery is an answer that a collaborator has given,
unless it belongs to the object for good; and as such a failure only rejects the object, the work on
it fails with nothing but answers.
-/

namespace Courier

open Program

/-- The failure with which a collaborator has answered. -/
def Turn.failure? (turn : Turn Call.Answer) : Option Failure :=
  match turn.answer with
  | .error failure => some failure
  | .ok _ => none

/-- The failures with which the collaborators have answered so far. -/
def failureRule : Rule Call.Answer (List Failure) where
  allows _ _ := True
  after failures turn := failures ++ turn.failure?.toList

/-- A failure has been answered, unless it has an excuse. -/
def Explained {α : Type} (excused : Failure → Prop) (failures : List Failure)
    (result : Except Failure α) : Prop :=
  ∀ failure, result = .error failure → excused failure ∨ failure ∈ failures

/-- Whatever has been answered before, the errand fails with an answer or an excuse. -/
def FailsForReason {α : Type} (excused : Failure → Prop) (errand : Errand α) : Prop :=
  ∀ failures, Follows failureRule (Explained excused) errand.run failures

theorem foldl_failureRule (turns : List (Turn Call.Answer)) (failures : List Failure) :
    turns.foldl failureRule.after failures = failures ++ turns.filterMap Turn.failure? := by
  induction turns generalizing failures with
  | nil => exact (List.append_nil failures).symm
  | cons turn turns ih =>
    rw [List.foldl_cons, ih, List.filterMap_cons]
    cases hfailure : turn.failure? <;> simp [failureRule, hfailure]

namespace FailsForReason

variable {α β : Type} {excused : Failure → Prop}

theorem call (call : Call) : FailsForReason excused call.errand := by
  refine fun failures => Call.follows_errand call trivial fun answer failure hfailure => .inr ?_
  subst hfailure
  exact List.mem_append_right _ (List.mem_singleton_self failure)

theorem known {result : Except Failure α}
    (h : ∀ failure, result = .error failure → excused failure) :
    FailsForReason excused (ExceptT.mk (pure result)) :=
  fun _ => .done fun failure hfailure => .inl (h failure hfailure)

theorem ok (value : α) : FailsForReason excused (pure value : Errand α) :=
  known fun _ h => by cases h

theorem andThen {first : Errand β} {f : β → Errand α} (h : FailsForReason excused first)
    (hf : ∀ value, FailsForReason excused (f value)) : FailsForReason excused (first >>= f) := by
  refine fun failures => Follows.andThen (Explained excused) (h failures)
    (fun place value _ => hf value place) fun place failure hfailure => ?_
  rintro _ ⟨⟩
  exact hfailure failure rfl

theorem retryIf {policy : RetryPolicy} {again : Failure → Bool} {operation : Errand α}
    (h : FailsForReason excused operation) :
    FailsForReason excused (retryIf policy again operation) :=
  fun _ => Follows.retryIf (fun _ => True) trivial fun place _ =>
    (h place).mono fun _ _ hexplained => ⟨hexplained, fun _ _ _ => trivial⟩

/-- The failure of such an errand has an excuse, or is the answer to a call. -/
theorem of_leads {errand : Errand α} {turns : List (Turn Call.Answer)} {failure : Failure}
    (h : FailsForReason excused errand)
    (hleads : Leads errand.run turns (.done (.error failure))) :
    excused failure ∨ ∃ turn ∈ turns, turn.failure? = some failure := by
  have hrest := (h []).leads hleads
  rw [foldl_failureRule, List.nil_append] at hrest
  cases hrest with
  | done hends => exact (hends failure rfl).imp_right List.mem_filterMap.1

end FailsForReason

/-- Metadata that lack a field are refused for good. -/
theorem Envelope.isPermanent_of_ofMetadata {key : String} {metadata : Metadata} {failure : Failure}
    (h : Envelope.ofMetadata key metadata = .error failure) : failure.isPermanent := by
  have hfield (name : String) (failure : Failure)
      (h : Envelope.field key metadata name = .error failure) : failure.isPermanent := by
    unfold Envelope.field at h
    split at h
    · split at h <;> cases h
      rfl
    · cases h
      rfl
  unfold Envelope.ofMetadata at h
  obtain h | ⟨counter, -, h⟩ := bind_eq_error_iff.1 h
  · exact hfield _ _ h
  obtain h | ⟨keyId, -, h⟩ := bind_eq_error_iff.1 h
  · exact hfield _ _ h
  obtain h | ⟨wrappedKey, -, h⟩ := bind_eq_error_iff.1 h
  · exact hfield _ _ h
  · cases h

/-- Material of the wrong kind is refused for good. -/
theorem Material.isPermanent_of_keystream {material : Material} {failure : Failure}
    (h : material.keystream = .error failure) : failure.isPermanent := by
  unfold Material.keystream at h
  dsimp only at h
  split at h
  · cases h
    rfl
  · split at h
    · cases h
      rfl
    · split at h
      · cases h
        rfl
      · cases h

namespace Item

variable (settings : Settings) (key : String)

theorem attempt_failsForReason (headers : FileHeaders) :
    FailsForReason (fun failure => failure.isPermanent) (attempt settings key headers) :=
  .andThen (.retryIf (.call (.get key))) fun _ =>
    .andThen (.known fun _ => Envelope.isPermanent_of_ofMetadata) fun _ =>
      .andThen (.call (.unwrap _ _)) fun _ =>
        .andThen (.known fun _ => Material.isPermanent_of_keystream) fun _ => .call (.deliver _ _)

theorem deliver_failsForReason :
    FailsForReason (fun failure => failure.isPermanent) (deliver settings key) :=
  .andThen (.known fun _ => Topic.isPermanent_of_resolve) fun _ =>
    .retryIf (attempt_failsForReason settings key _)

/-- A failure for good rejects the object, so only answers are left to fail with. -/
theorem deliverOrReject_failsForReason :
    FailsForReason (fun _ => False) (deliverOrReject settings key) := by
  have hdeliver : FailsForReason (fun failure => failure.isPermanent)
      (do deliver settings key; return (none : Option Failure)) :=
    .andThen (deliver_failsForReason settings key) fun _ => .ok none
  refine fun failures => Follows.orElse _ (hdeliver failures) (fun _ _ _ _ h => by cases h)
    fun place failure hfailure => ?_
  split
  · exact FailsForReason.ok (some failure) place
  · next hpassing =>
    refine .done fun _ herror => .inr ?_
    cases herror
    exact (hfailure failure rfl).resolve_left hpassing

theorem process_failsForReason : FailsForReason (fun _ => False) (process settings key) := by
  have hsent : FailsForReason (fun _ => False) (alreadySent settings key) := by
    unfold alreadySent
    split
    · exact .ok false
    · exact .retryIf (.call (.contains _))
  have hwrite : FailsForReason (fun _ => False) (writeMarker settings key) :=
    .andThen (.retryIf (.call (.put _ _ _ _))) fun _ => .ok _
  have hcount : FailsForReason (fun _ => False) (Tracker.ofSettings settings).countSent :=
    .andThen (.retryIf (.call (.increment _ _))) fun _ => .ok ()
  unfold process
  refine hsent.andThen fun sent => ?_
  split
  · exact .ok ItemOutcome.skipped
  refine (deliverOrReject_failsForReason settings key).andThen fun rejection => ?_
  cases rejection with
  | some reason => exact .ok (ItemOutcome.rejected reason)
  | none => exact hwrite.andThen fun _ => hcount.andThen fun _ => .ok ItemOutcome.delivered

/-- The work on an object fails with the answer to one of its calls. -/
theorem exists_failure_of_process {settings : Settings} {key : String}
    {turns : List (Turn Call.Answer)} {failure : Failure}
    (h : Leads (process settings key).run turns (.done (.error failure))) :
    ∃ turn ∈ turns, turn.failure? = some failure :=
  ((process_failsForReason settings key).of_leads h).resolve_left id

/-- The work on an object rejects it for good. -/
theorem isPermanent_of_process {settings : Settings} {key : String}
    {turns : List (Turn Call.Answer)} {reason : Failure}
    (h : Leads (process settings key).run turns (.done (.ok (.rejected reason)))) :
    reason.isPermanent := by
  have hfollows := (process_follows settings key).leads h
  generalize turns.foldl (rule settings key).after (firstPhase settings) = phase at hfollows
  obtain hends | _ := hfollows
  cases phase with
  | cleared =>
    obtain ⟨reason, ⟨⟩, hpermanent⟩ | ⟨failure, ⟨⟩, -⟩ := hends
    exact hpermanent
  | skipping | counted => cases hends
  | marked =>
    obtain ⟨-, failure, ⟨⟩⟩ := hends
  | unchecked | accepted =>
    obtain ⟨failure, ⟨⟩⟩ := hends

end Item

end Courier

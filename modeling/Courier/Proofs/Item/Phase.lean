import Courier.Proofs.Program.Rule
import Courier.Run.Item

/-!
The phases of the work on an object. Its calls come in a fixed order: look for the marker, read and
deliver, write the marker, count. `process_follows` says that the program of an item keeps to this
order whatever the collaborators answer, and which outcomes it can have in which phase.
-/

namespace Courier.Item

open Program

/-- How far the work on an object has come. -/
inductive Phase where
  /-- It is not known whether the marker is there. -/
  | unchecked
  /-- The marker is there. -/
  | skipping
  /-- The object may be delivered. -/
  | cleared
  /-- The ingestion side has accepted the object. -/
  | accepted
  /-- The marker has been written, and so many attempts to count the file have failed. -/
  | marked (failures : Nat)
  /-- The file has been counted. -/
  | counted
  deriving DecidableEq, Repr

/-- The call that writes an object's marker. -/
def markerPut (settings : Settings) (key : String) : Call :=
  .put (markerKey settings key) (Marker.content key).toUTF8.toList Marker.contentType
    (Marker.metadata (markerKey settings key) key)

/-- The call that counts a file of the run's collection. -/
def countCall (settings : Settings) : Call :=
  .increment settings.run.correlationId settings.run.topicName

/-- The call reads an object with a topic, unwraps its key or delivers it under its own headers. -/
inductive Delivering (settings : Settings) (key : String) : Call → Prop
  | get (topic : Topic)
    (htopic :
      Topic.resolve settings.handling.blockedTopics (plainName (fileName key)) = .ok topic) :
    Delivering settings key (.get key)
  | unwrap (topic : Topic)
    (htopic :
      Topic.resolve settings.handling.blockedTopics (plainName (fileName key)) = .ok topic)
    (keyId wrappedKey : String) : Delivering settings key (.unwrap keyId wrappedKey)
  | deliver (topic : Topic)
    (htopic :
      Topic.resolve settings.handling.blockedTopics (plainName (fileName key)) = .ok topic)
    (body : Body) :
    Delivering settings key
      (.deliver ((FileHeaders.ofFile (fileName key) topic).pairs settings.run) body)

/-- The calls of the work on an object, whatever its phase. -/
inductive Asks (settings : Settings) (key : String) : Call → Prop
  | contains : Asks settings key (.contains (markerKey settings key))
  | delivering {call : Call} (hcall : Delivering settings key call) : Asks settings key call
  | put : Asks settings key (markerPut settings key)
  | count : Asks settings key (countCall settings)

/-- The phase after a call and its answer. -/
def Phase.next : Phase → Turn Call.Answer → Phase
  | .unchecked, ⟨.contains _, .ok true⟩ => .skipping
  | .unchecked, ⟨.contains _, .ok false⟩ => .cleared
  | .cleared, ⟨.deliver _ _, .ok _⟩ => .accepted
  | .accepted, ⟨.put .., .ok _⟩ => .marked 0
  | .marked _, ⟨.increment _ _, .ok _⟩ => .counted
  | .marked failures, ⟨.increment _ _, .error _⟩ => .marked (failures + 1)
  | phase, _ => phase

/-- The calls of an item, phase by phase. -/
def rule (settings : Settings) (key : String) : Rule Call.Answer Phase where
  allows
    | .unchecked, call => call = .contains (markerKey settings key)
    | .cleared, call => Delivering settings key call
    | .accepted, call => call = markerPut settings key
    | .marked _, call => call = countCall settings
    | _, _ => False
  after := Phase.next

/-- The outcomes that fit a phase. An item fails behind its marker only after all attempts to count
    it have. -/
def Ends (settings : Settings) : Phase → Except Failure ItemOutcome → Prop
  | .skipping, result => result = .ok .skipped
  | .cleared, result =>
    (∃ reason, result = .ok (.rejected reason) ∧ reason.isPermanent) ∨
      ∃ failure, result = .error failure ∧ ¬ failure.isPermanent
  | .marked failures, result =>
    failures = settings.retries.statusTable.attempts ∧ ∃ failure, result = .error failure
  | .counted, result => result = .ok .delivered
  | _, result => ∃ failure, result = .error failure

/-- The phase in which the work on an object starts. -/
def firstPhase (settings : Settings) : Phase :=
  if settings.run.reprocess then .cleared else .unchecked

section Parts

variable (settings : Settings) (key : String)

theorem alreadySent_follows :
    Follows (rule settings key)
      (fun phase result => (phase = .skipping ∧ result = .ok true) ∨
        (phase = .cleared ∧ result = .ok false) ∨ (phase = .unchecked ∧ ∃ e, result = .error e))
      (alreadySent settings key).run (firstPhase settings) := by
  unfold alreadySent firstPhase
  split
  · exact .done (.inr (.inl ⟨rfl, rfl⟩))
  · refine Follows.retryIf (· = .unchecked) rfl ?_
    rintro _ rfl
    refine Call.follows_errand (.contains (markerKey settings key)) rfl fun answer => ?_
    cases answer with
    | error e => exact ⟨.inr (.inr ⟨rfl, e, rfl⟩), fun _ _ _ => rfl⟩
    | ok found =>
      refine ⟨?_, nofun⟩
      cases found with
      | true => exact .inl ⟨rfl, rfl⟩
      | false => exact .inr (.inl ⟨rfl, rfl⟩)

theorem attempt_follows {topic : Topic}
    (htopic :
      Topic.resolve settings.handling.blockedTopics (plainName (fileName key)) = .ok topic) :
    Follows (rule settings key)
      (fun phase result => (phase = .accepted ∧ result = .ok ()) ∨
        (phase = .cleared ∧ ∃ e, result = .error e))
      (attempt settings key (.ofFile (fileName key) topic)).run .cleared := by
  unfold attempt
  refine Follows.andThen (fun phase _ => phase = .cleared)
    (Follows.retryIf (· = .cleared) rfl ?_) ?_ fun phase e h => .inr ⟨h, e, rfl⟩
  · rintro _ rfl
    exact Call.follows_errand (.get key) (.get topic htopic) fun answer => ⟨rfl, fun _ _ _ => rfl⟩
  rintro _ object rfl
  refine Follows.andThen (fun phase _ => phase = .cleared) (.done rfl) ?_
    fun phase e h => .inr ⟨h, e, rfl⟩
  rintro _ envelope rfl
  refine Follows.andThen (fun phase _ => phase = .cleared)
    (Call.follows_errand (.unwrap _ _) (.unwrap topic htopic _ _) fun answer => rfl) ?_
    fun phase e h => .inr ⟨h, e, rfl⟩
  rintro _ dataKey rfl
  refine Follows.andThen (fun phase _ => phase = .cleared) (.done rfl) ?_
    fun phase e h => .inr ⟨h, e, rfl⟩
  rintro _ stream rfl
  refine Call.follows_errand (.deliver _ _) (.deliver topic htopic _) fun answer => ?_
  cases answer with
  | error e => exact .inr ⟨rfl, e, rfl⟩
  | ok => exact .inl ⟨rfl, rfl⟩

theorem deliver_follows :
    Follows (rule settings key)
      (fun phase result => (phase = .accepted ∧ result = .ok ()) ∨
        (phase = .cleared ∧ ∃ e, result = .error e))
      (deliver settings key).run .cleared := by
  unfold deliver
  dsimp only
  refine Follows.andThen
    (fun phase result => phase = .cleared ∧
      result = Topic.resolve settings.handling.blockedTopics (plainName (fileName key)))
    (.done ⟨rfl, rfl⟩) ?_ fun phase e h => .inr ⟨h.1, e, rfl⟩
  rintro _ topic ⟨rfl, htopic⟩
  refine Follows.retryIf (· = .cleared) rfl ?_
  rintro _ rfl
  refine (attempt_follows settings key htopic.symm).mono fun phase result h => ⟨h, ?_⟩
  rintro e rfl -
  obtain ⟨-, ⟨⟩⟩ | ⟨hphase, -⟩ := h
  exact hphase

theorem deliverOrReject_follows :
    Follows (rule settings key)
      (fun phase result => (phase = .accepted ∧ result = .ok none) ∨
        (phase = .cleared ∧ ((∃ reason, result = .ok (some reason) ∧ reason.isPermanent) ∨
          ∃ failure, result = .error failure ∧ ¬ failure.isPermanent)))
      (deliverOrReject settings key).run .cleared := by
  unfold deliverOrReject
  refine Follows.orElse
    (fun phase result => (phase = .accepted ∧ result = .ok none) ∨
      (phase = .cleared ∧ ∃ e, result = .error e)) ?_ ?_ ?_
  · refine Follows.andThen _ (deliver_follows settings key) ?_ ?_
    · rintro phase _ (⟨rfl, -⟩ | ⟨-, e, ⟨⟩⟩)
      exact .done (.inl ⟨rfl, rfl⟩)
    · rintro phase e (⟨-, ⟨⟩⟩ | ⟨rfl, -⟩)
      exact .inr ⟨rfl, e, rfl⟩
  · rintro phase value (⟨rfl, hvalue⟩ | ⟨-, e, ⟨⟩⟩)
    exact .inl ⟨rfl, hvalue⟩
  · rintro phase failure (⟨-, ⟨⟩⟩ | ⟨rfl, -⟩)
    by_cases hpermanent : failure.isPermanent
    · simp only [hpermanent, if_true]
      exact .done (.inr ⟨rfl, .inl ⟨failure, rfl, hpermanent⟩⟩)
    · simp only [hpermanent]
      exact .done (.inr ⟨rfl, .inr ⟨failure, rfl, hpermanent⟩⟩)

theorem writeMarker_follows :
    Follows (rule settings key)
      (fun phase result => (phase = .marked 0 ∧ ∃ marker, result = .ok marker) ∨
        (phase = .accepted ∧ ∃ e, result = .error e))
      (writeMarker settings key).run .accepted := by
  unfold writeMarker
  refine Follows.andThen
    (fun phase result => (phase = .marked 0 ∧ ∃ value, result = .ok value) ∨
      (phase = .accepted ∧ ∃ e, result = .error e))
    (Follows.retryIf (· = .accepted) rfl ?_) ?_ ?_
  · rintro _ rfl
    refine Call.follows_errand (markerPut settings key) rfl fun answer => ?_
    cases answer with
    | error e => exact ⟨.inr ⟨rfl, e, rfl⟩, fun _ _ _ => rfl⟩
    | ok value => exact ⟨.inl ⟨rfl, value, rfl⟩, nofun⟩
  · rintro phase _ (⟨rfl, -⟩ | ⟨-, e, ⟨⟩⟩)
    exact .done (.inl ⟨rfl, _, rfl⟩)
  · rintro phase e (⟨-, _, ⟨⟩⟩ | ⟨rfl, -⟩)
    exact .inr ⟨rfl, e, rfl⟩

theorem countSent_follows :
    Follows (rule settings key)
      (fun phase result => (phase = .counted ∧ result = .ok ()) ∨
        (phase = .marked settings.retries.statusTable.attempts ∧ ∃ e, result = .error e))
      (Tracker.ofSettings settings).countSent.run (.marked 0) := by
  unfold Tracker.countSent
  refine Follows.andThen
    (fun phase result => (phase = .counted ∧ ∃ count, result = .ok count) ∨
      (phase = .marked settings.retries.statusTable.attempts ∧ ∃ e, result = .error e))
    (Follows.retryIf_counted
      (fun attempt phase => phase = .marked (attempt - 1) ∧ 1 ≤ attempt ∧
        attempt ≤ settings.retries.statusTable.attempts)
      ⟨rfl, Nat.le.refl, Nat.le_max_right _ _⟩ ?_) ?_ ?_
  · rintro attempt _ ⟨rfl, hone, hattempts⟩
    have hnext : attempt - 1 + 1 = attempt := by omega
    refine Call.follows_errand (countCall settings) rfl fun answer => ?_
    cases answer with
    | ok count => exact .inl ⟨rfl, count, rfl⟩
    | error e =>
      obtain hleft | hlast := Nat.lt_or_ge attempt settings.retries.statusTable.attempts
      · exact Follows.afterAttempt_of_lt rfl hleft ⟨congrArg Phase.marked hnext, by omega, hleft⟩
      · have hattempt := Nat.le_antisymm hattempts hlast
        exact Follows.afterAttempt_of_le hlast
          (.inr ⟨congrArg Phase.marked (hnext.trans hattempt), e, rfl⟩)
  · rintro phase _ (⟨rfl, -⟩ | ⟨-, e, ⟨⟩⟩)
    exact .done (.inl ⟨rfl, rfl⟩)
  · rintro phase e (⟨-, _, ⟨⟩⟩ | ⟨rfl, -⟩)
    exact .inr ⟨rfl, e, rfl⟩

end Parts

/-- The work on an object keeps to the order of the phases, and its outcome fits the phase it
    ends in. -/
theorem process_follows (settings : Settings) (key : String) :
    Follows (rule settings key) (Ends settings) (process settings key).run
      (firstPhase settings) := by
  unfold process
  refine Follows.andThen _ (alreadySent_follows settings key) ?_ ?_
  · rintro phase sent (⟨rfl, ⟨⟩⟩ | ⟨rfl, ⟨⟩⟩ | ⟨-, e, ⟨⟩⟩)
    · exact .done rfl
    refine Follows.andThen _ (deliverOrReject_follows settings key) ?_ ?_
    · rintro phase rejection (⟨rfl, ⟨⟩⟩ | ⟨rfl, ⟨reason, ⟨⟩, hpermanent⟩ | ⟨e, ⟨⟩, -⟩⟩)
      · refine Follows.andThen _ (writeMarker_follows settings key) ?_ ?_
        · rintro phase marker (⟨rfl, -⟩ | ⟨-, e, ⟨⟩⟩)
          refine Follows.andThen _ (countSent_follows settings key) ?_ ?_
          · rintro phase _ (⟨rfl, -⟩ | ⟨-, e, ⟨⟩⟩)
            exact .done rfl
          · rintro phase e (⟨-, ⟨⟩⟩ | ⟨rfl, -⟩)
            exact ⟨rfl, e, rfl⟩
        · rintro phase e (⟨-, _, ⟨⟩⟩ | ⟨rfl, -⟩)
          exact ⟨e, rfl⟩
      · exact .done (.inl ⟨reason, rfl, hpermanent⟩)
    · rintro phase e (⟨-, ⟨⟩⟩ | ⟨rfl, ⟨reason, ⟨⟩, -⟩ | ⟨_, ⟨⟩, hpermanent⟩⟩)
      exact .inr ⟨e, rfl, hpermanent⟩
  · rintro phase e (⟨-, ⟨⟩⟩ | ⟨-, ⟨⟩⟩ | ⟨rfl, -⟩)
    exact ⟨e, rfl⟩

theorem asks_of_allows {settings : Settings} {key : String} {phase : Phase} {call : Call}
    (h : (rule settings key).allows phase call) : Asks settings key call := by
  cases phase with
  | unchecked => exact h ▸ .contains
  | cleared => exact .delivering h
  | accepted => exact h ▸ .put
  | marked failures => exact h ▸ .count
  | skipping | counted => exact h.elim

theorem process_makes (settings : Settings) (key : String) :
    Makes (Asks settings key) (process settings key).run :=
  .of_follows (process_follows settings key) fun _ _ => asks_of_allows

end Courier.Item

import Courier.Proofs.Item.Phase
import Courier.Proofs.Memory.Answer

/-!
What the work on one object leaves behind. For every outcome, `Account` says which calls have been
made, in which order, and what has become of the objects and the rows; `process_account` says that
this is so whatever the collaborators hold and whichever of their calls fail.
-/

namespace Courier

namespace Memory

/-- The ingestion side has read a whole body and accepted it. -/
def Event.Accepted (event : Event) : Prop :=
  event.fault = none ∧
    ∃ headers body bytes, event.call = .deliver headers body ∧ Body.bytes body = .ok bytes

/-- The calls that `after` remembers and `before` does not, the first one first. -/
def World.eventsSince (before after : World) : List Event :=
  (after.events.take (after.events.length - before.events.length)).reverse

theorem World.eventsSince_eq {before after : World} {events : List Event}
    (h : after.events = events.reverse ++ before.events) : before.eventsSince after = events := by
  simp [eventsSince, h]

end Memory

/-- Every delay between the attempts of a policy has a value. -/
def RetryPolicy.DelaysDefined (policy : RetryPolicy) : Prop :=
  ∀ attempt, 1 ≤ attempt → attempt < policy.attempts → (policy.delayAfter? attempt).isSome

namespace Item

open Memory Program

variable (settings : Settings) (key : String)

/-- The calls before the marker: looks for it, and deliveries that are not accepted. -/
def Early (events : List Event) : Prop :=
  ∀ event ∈ events,
    (event.call = .contains (markerKey settings key) ∨ Delivering settings key event.call) ∧
      ¬ event.Accepted

/-- Attempts at a call that all fail. -/
def InVain (call : Call) (events : List Event) : Prop :=
  ∀ event ∈ events, event.call = call ∧ event.fault ≠ none

/-- The calls of an item whose marker has been written: deliveries up to the one that is accepted,
    attempts to write the marker up to the one that succeeds, and what follows. -/
def MarkedBy (events later : List Event) : Prop :=
  ∃ early delivery puts,
    events = early ++ delivery :: (puts ++ ⟨markerPut settings key, none⟩ :: later) ∧
      Early settings key early ∧ Delivering settings key delivery.call ∧ delivery.Accepted ∧
      InVain (markerPut settings key) puts

/-- The store has gained the marker, which holds its text, and is otherwise as it was. -/
def MarkerAdded (before after : World) : Prop :=
  (∃ marker, find? after.objects (markerKey settings key) = some marker ∧
    marker.body.bytes = .ok ("Finished " ++ key).toUTF8.toList ∧
    marker.metadata =
      [("original-s3-filename", key), ("x-amz-meta-title", markerKey settings key)]) ∧
  ∀ other, other ≠ markerKey settings key → find? after.objects other = find? before.objects other

/-- The worker's own row has one more file sent, and a row that was not there has no status; the
    other rows are as they were. -/
def OneMoreSent (before after : World) : Prop :=
  let own := (settings.run.correlationId, settings.run.topicName)
  let row := (find? before.table own).getD ⟨.missing, none, none⟩
  find? after.table own = some { row with sent := some (row.sent.getD 0 + 1) } ∧
    ∀ other, other ≠ own → find? after.table other = find? before.table other

/-- What an outcome of the work on an object says about calls, objects and rows. -/
def Account (before after : World) : Except Failure ItemOutcome → Prop
  | .ok .skipped =>
    after.objects = before.objects ∧ after.table = before.table ∧
      ∀ event ∈ before.eventsSince after, event.call = .contains (markerKey settings key)
  | .ok (.rejected reason) =>
    reason.kind ∈ [.keyRejected, .metadata, .blockedTopic, .decryption] ∧
      after.objects = before.objects ∧ after.table = before.table ∧
      Early settings key (before.eventsSince after)
  | .ok .delivered =>
    (∃ counts, InVain (countCall settings) counts ∧
      MarkedBy settings key (before.eventsSince after) (counts ++ [⟨countCall settings, none⟩])) ∧
      MarkerAdded settings key before after ∧ OneMoreSent settings before after
  | .error _ =>
    after.table = before.table ∧
      (after.objects = before.objects ∨
        MarkerAdded settings key before after ∧
          ∃ counts, InVain (countCall settings) counts ∧
            counts.length = settings.retries.statusTable.attempts ∧
            MarkedBy settings key (before.eventsSince after) counts)

/-- The calls made up to a phase. -/
def Trace : Phase → List Event → Prop
  | .unchecked, events | .skipping, events =>
    ∀ event ∈ events, event.call = .contains (markerKey settings key)
  | .cleared, events => Early settings key events
  | .accepted, events =>
    ∃ early delivery puts, events = early ++ delivery :: puts ∧ Early settings key early ∧
      Delivering settings key delivery.call ∧ delivery.Accepted ∧
      InVain (markerPut settings key) puts
  | .marked failures, events =>
    ∃ counts, InVain (countCall settings) counts ∧ counts.length = failures ∧
      MarkedBy settings key events counts
  | .counted, events =>
    ∃ counts, InVain (countCall settings) counts ∧
      MarkedBy settings key events (counts ++ [⟨countCall settings, none⟩])

/-- The objects in a phase. -/
def objectsIn (before : World) : Phase → List (String × StoredObject)
  | .marked _ | .counted =>
    insert before.objects (markerKey settings key)
      ⟨cutPieces before.pieceSize (Marker.content key).toUTF8.toList,
        Marker.metadata (markerKey settings key) key⟩
  | _ => before.objects

/-- The rows in a phase. -/
def tableIn (before : World) : Phase → Table
  | .counted =>
    let own := (settings.run.correlationId, settings.run.topicName)
    insert before.table own ((find? before.table own).getD .empty).counted
  | _ => before.table

/-- What is true of the collaborators while an item is in a phase. -/
structure Record (before : World) (phase : Phase) (world : World) : Prop where
  events : ∃ events, world.events = events.reverse ++ before.events ∧
    Trace settings key phase events
  objects : world.objects = objectsIn settings key before phase
  table : world.table = tableIn settings before phase
  pieceSize : world.pieceSize = before.pieceSize

theorem answer_markerPut (world : World) :
    ((world.answer (markerPut settings key)).1 = .ok () ∧
      world.planned (markerPut settings key) = none ∧
      (world.answer (markerPut settings key)).2.objects =
        insert world.objects (markerKey settings key)
          ⟨cutPieces world.pieceSize (Marker.content key).toUTF8.toList,
            Marker.metadata (markerKey settings key) key⟩) ∨
    ∃ failure, (world.answer (markerPut settings key)).1 = .error failure ∧
      world.planned (markerPut settings key) = some failure ∧
      (world.answer (markerPut settings key)).2.objects = world.objects :=
  world.answer_put _ _ _ _

theorem answer_countCall (world : World) :
    (∃ count, (world.answer (countCall settings)).1 = .ok count ∧
      world.planned (countCall settings) = none ∧
      (world.answer (countCall settings)).2.table =
        insert world.table (settings.run.correlationId, settings.run.topicName)
          ((find? world.table (settings.run.correlationId, settings.run.topicName)).getD
            .empty).counted) ∨
    ∃ failure, (world.answer (countCall settings)).1 = .error failure ∧
      world.planned (countCall settings) = some failure ∧
      (world.answer (countCall settings)).2.table = world.table :=
  world.answer_increment _ _

/-- A call of the work on an object writes its marker, counts it, or writes nothing. -/
theorem Asks.writes_cases {settings : Settings} {key : String} {call : Call}
    (h : Asks settings key call) :
    call = markerPut settings key ∨ call = countCall settings ∨ (kindOf call).writes = false := by
  cases h with
  | contains => exact .inr (.inr rfl)
  | delivering hcall => cases hcall <;> exact .inr (.inr rfl)
  | put => exact .inl rfl
  | count => exact .inr (.inl rfl)

/-- The calls for an object write nothing into the store but its marker. -/
theorem Asks.objects_cases {settings : Settings} {key : String} {call : Call}
    (h : Asks settings key call) (world : World) :
    (world.answer call).2.objects = world.objects ∨
      call = markerPut settings key ∧ ∃ object, (world.answer call).2.objects =
        insert world.objects (markerKey settings key) object := by
  obtain rfl | rfl | hquiet := h.writes_cases
  · obtain ⟨-, -, hobjects⟩ | ⟨_, -, -, hobjects⟩ := answer_markerPut settings key world
    · exact .inr ⟨rfl, _, hobjects⟩
    · exact .inl hobjects
  · exact .inl (World.answer_objects_of_ne nofun)
  · exact .inl (World.answer_unwritten hquiet).1

section Steps

variable {settings key}

theorem InVain.nil (call : Call) : InVain call [] := fun _ h => nomatch h

theorem InVain.snoc {call : Call} {events : List Event} {event : Event}
    (h : InVain call events) (hcall : event.call = call) (hfault : event.fault ≠ none) :
    InVain call (events ++ [event]) := by
  intro other hother
  obtain hother | rfl := by simpa using hother
  · exact h other hother
  · exact ⟨hcall, hfault⟩

theorem Early.snoc {events : List Event} {event : Event} (h : Early settings key events)
    (hcall : event.call = .contains (markerKey settings key) ∨ Delivering settings key event.call)
    (haccepted : ¬ event.Accepted) : Early settings key (events ++ [event]) := by
  intro other hother
  obtain hother | rfl := by simpa using hother
  · exact h other hother
  · exact ⟨hcall, haccepted⟩

theorem MarkedBy.snoc {events later : List Event} (event : Event)
    (h : MarkedBy settings key events later) :
    MarkedBy settings key (events ++ [event]) (later ++ [event]) := by
  obtain ⟨early, delivery, puts, rfl, h⟩ := h
  exact ⟨early, delivery, puts, by simp, h⟩

theorem early_of_contains {events : List Event}
    (h : ∀ event ∈ events, event.call = .contains (markerKey settings key)) :
    Early settings key events := by
  intro event hevent
  have hcall := h event hevent
  refine ⟨.inl hcall, ?_⟩
  rintro ⟨-, headers, body, bytes, hdeliver, -⟩
  cases hcall.symm.trans hdeliver

variable {before world : World} {phase : Phase}

/-- A call that fails, or that writes neither objects nor rows, only makes the trace longer. -/
theorem Record.step {phase' : Phase} (call : Call) (h : Record settings key before phase world)
    (hobjects : (world.answer call).2.objects = world.objects)
    (htable : (world.answer call).2.table = world.table)
    (hobjectsIn : objectsIn settings key before phase' = objectsIn settings key before phase)
    (htableIn : tableIn settings before phase' = tableIn settings before phase)
    (htrace : ∀ events, Trace settings key phase events →
      Trace settings key phase' (events ++ [⟨call, world.planned call⟩])) :
    Record settings key before phase' (world.answer call).2 := by
  obtain ⟨events, hevents, hphase⟩ := h.events
  refine ⟨⟨_, by simp [hevents], htrace events hphase⟩, ?_, ?_, ?_⟩
  · rw [hobjects, h.objects, hobjectsIn]
  · rw [htable, h.table, htableIn]
  · rw [World.answer_pieceSize, h.pieceSize]

theorem Record.contains (h : Record settings key before .unchecked world) :
    Record settings key before
      (Phase.next .unchecked ⟨_, (world.answer (.contains (markerKey settings key))).1⟩)
      (world.answer (.contains (markerKey settings key))).2 := by
  have hobjects : (world.answer (.contains (markerKey settings key))).2.objects = world.objects :=
    World.answer_objects_of_ne nofun
  have htable : (world.answer (.contains (markerKey settings key))).2.table = world.table :=
    World.answer_table_of_ne nofun nofun
  have htrace : ∀ events fault, Trace settings key .unchecked events →
      Trace settings key .unchecked (events ++ [⟨.contains (markerKey settings key), fault⟩]) := by
    intro events fault hevents event hevent
    obtain hevent | rfl := by simpa using hevent
    · exact hevents event hevent
    · rfl
  generalize (world.answer (.contains (markerKey settings key))).1 = result
  match result with
  | .error _ => exact h.step _ hobjects htable rfl rfl fun events => htrace events _
  | .ok true => exact h.step _ hobjects htable rfl rfl fun events => htrace events _
  | .ok false =>
    exact h.step _ hobjects htable rfl rfl fun events hevents =>
      early_of_contains (htrace events _ hevents)

theorem accepted_iff (world : World) (headers : List (String × String)) (body : Body) :
    Event.Accepted ⟨.deliver headers body, world.planned (.deliver headers body)⟩ ↔
      (world.answer (.deliver headers body)).1 = .ok () := by
  rw [World.answer_deliver, Event.Accepted]
  constructor
  · rintro ⟨hnone, _, _, bytes, ⟨⟩, hbytes⟩
    exact ⟨hnone, bytes, hbytes⟩
  · rintro ⟨hnone, bytes, hbytes⟩
    exact ⟨hnone, headers, body, bytes, rfl, hbytes⟩

theorem Record.delivering {call : Call} (hcall : Delivering settings key call)
    (h : Record settings key before .cleared world) :
    Record settings key before (Phase.next .cleared ⟨call, (world.answer call).1⟩)
      (world.answer call).2 := by
  have hobjects : (world.answer call).2.objects = world.objects := by
    cases hcall <;> exact World.answer_objects_of_ne nofun
  have htable : (world.answer call).2.table = world.table := by
    cases hcall <;> exact World.answer_table_of_ne nofun nofun
  cases hcall with
  | get topic htopic =>
    refine h.step _ hobjects htable rfl rfl fun events hevents =>
      Early.snoc hevents (.inr (.get topic htopic)) ?_
    rintro ⟨-, _, _, _, ⟨⟩, -⟩
  | unwrap topic htopic keyId wrappedKey =>
    refine h.step _ hobjects htable rfl rfl fun events hevents =>
      Early.snoc hevents (.inr (.unwrap topic htopic _ _)) ?_
    rintro ⟨-, _, _, _, ⟨⟩, -⟩
  | deliver topic htopic body =>
    have hdelivering : Delivering settings key
        (.deliver ((FileHeaders.ofFile (fileName key) topic).pairs settings.run) body) :=
      .deliver topic htopic body
    generalize (FileHeaders.ofFile (fileName key) topic).pairs settings.run = headers at *
    cases hresult : (world.answer (.deliver headers body)).1 with
    | error e =>
      refine h.step _ hobjects htable rfl rfl fun events hevents =>
        Early.snoc hevents (.inr hdelivering) ?_
      rw [accepted_iff, hresult]
      exact nofun
    | ok =>
      refine h.step _ hobjects htable rfl rfl fun events hevents => ?_
      have haccepted := (accepted_iff world headers body).2 hresult
      exact ⟨events, _, [], rfl, hevents, hdelivering, haccepted, .nil _⟩

theorem Record.put (h : Record settings key before .accepted world) :
    Record settings key before
      (Phase.next .accepted ⟨_, (world.answer (markerPut settings key)).1⟩)
      (world.answer (markerPut settings key)).2 := by
  have htable : (world.answer (markerPut settings key)).2.table = world.table :=
    World.answer_table_of_ne nofun nofun
  obtain ⟨hresult, hplanned, hobjects⟩ | ⟨failure, hresult, hplanned, hobjects⟩ :=
    answer_markerPut settings key world
  · obtain ⟨events, hevents, early, delivery, puts, rfl, hphase⟩ := h.events
    rw [hresult]
    refine ⟨⟨early ++ delivery :: puts ++ [⟨markerPut settings key, none⟩], ?_, ?_⟩, ?_, ?_, ?_⟩
    · simp [hevents, hplanned]
    · exact ⟨[], .nil _, rfl, early, delivery, puts, by simp, hphase⟩
    · rw [hobjects, h.objects, h.pieceSize]
      rfl
    · rw [htable, h.table]
      rfl
    · rw [World.answer_pieceSize, h.pieceSize]
  · rw [hresult]
    refine h.step _ hobjects htable rfl rfl fun events hevents => ?_
    obtain ⟨early, delivery, puts, rfl, hearly, hdelivering, haccepted, hputs⟩ := hevents
    rw [hplanned]
    exact ⟨early, delivery, puts ++ [⟨markerPut settings key, some failure⟩], by simp, hearly,
      hdelivering, haccepted, hputs.snoc rfl nofun⟩

theorem Record.count {failures : Nat} (h : Record settings key before (.marked failures) world) :
    Record settings key before
      (Phase.next (.marked failures) ⟨_, (world.answer (countCall settings)).1⟩)
      (world.answer (countCall settings)).2 := by
  have hobjects : (world.answer (countCall settings)).2.objects = world.objects :=
    World.answer_objects_of_ne nofun
  obtain ⟨count, hresult, hplanned, htable⟩ | ⟨failure, hresult, hplanned, htable⟩ :=
    answer_countCall settings world
  · obtain ⟨events, hevents, counts, hcounts, -, hmarked⟩ := h.events
    rw [hresult]
    refine ⟨⟨events ++ [⟨countCall settings, none⟩], ?_, ?_⟩, ?_, ?_, ?_⟩
    · simp [hevents, hplanned]
    · exact ⟨counts, hcounts, hmarked.snoc _⟩
    · rw [hobjects, h.objects]
      rfl
    · rw [htable, h.table]
      rfl
    · rw [World.answer_pieceSize, h.pieceSize]
  · rw [hresult]
    refine h.step _ hobjects htable rfl rfl fun events hevents => ?_
    obtain ⟨counts, hcounts, hlength, hmarked⟩ := hevents
    rw [hplanned]
    exact ⟨counts ++ [⟨countCall settings, some failure⟩], hcounts.snoc rfl nofun,
      by simp [hlength], hmarked.snoc _⟩

/-- Every call that is allowed in a phase keeps the record. -/
theorem Record.turn {call : Call} (hallowed : (rule settings key).allows phase call)
    (h : Record settings key before phase world) :
    Record settings key before ((rule settings key).after phase ⟨call, (world.answer call).1⟩)
      (world.answer call).2 := by
  cases phase with
  | unchecked =>
    cases hallowed
    exact h.contains
  | cleared => exact h.delivering hallowed
  | accepted =>
    cases hallowed
    exact h.put
  | marked failures =>
    cases hallowed
    exact h.count
  | skipping | counted => exact hallowed.elim

theorem Record.start (world : World) : Record settings key world (firstPhase settings) world := by
  unfold firstPhase
  cases settings.run.reprocess with
  | true => exact ⟨⟨[], rfl, fun _ h => nomatch h⟩, rfl, rfl, rfl⟩
  | false => exact ⟨⟨[], rfl, fun _ h => nomatch h⟩, rfl, rfl, rfl⟩

theorem Record.markerAdded (h : Record settings key before phase world)
    (hphase : objectsIn settings key before phase =
      insert before.objects (markerKey settings key)
        ⟨cutPieces before.pieceSize (Marker.content key).toUTF8.toList,
          Marker.metadata (markerKey settings key) key⟩) :
    MarkerAdded settings key before world := by
  rw [MarkerAdded, h.objects, hphase]
  refine ⟨⟨_, find?_insert_self _ _ _, ?_, rfl⟩, fun other hother => ?_⟩
  · exact Body.bytes_cutPieces _ _
  · exact find?_insert_of_ne _ _ hother

theorem Record.oneMoreSent (h : Record settings key before .counted world) :
    OneMoreSent settings before world := by
  rw [OneMoreSent, h.table]
  exact ⟨find?_insert_self _ _ _, fun other hother => find?_insert_of_ne _ _ hother⟩

/-- An outcome that fits the phase is accounted for by the record. -/
theorem Record.account (h : Record settings key before phase world)
    {result : Except Failure ItemOutcome} (hends : Ends settings phase result) :
    Account settings key before world result := by
  obtain ⟨events, hevents, htrace⟩ := h.events
  have hsince := World.eventsSince_eq hevents
  cases phase with
  | unchecked | accepted =>
    obtain ⟨failure, rfl⟩ := hends
    exact ⟨h.table, .inl h.objects⟩
  | skipping =>
    cases hends
    exact ⟨h.objects, h.table, hsince ▸ htrace⟩
  | cleared =>
    obtain ⟨reason, rfl, hpermanent⟩ | ⟨failure, rfl, -⟩ := hends
    · exact ⟨FailureKind.isPermanent_iff.1 hpermanent, h.objects, h.table, hsince ▸ htrace⟩
    · exact ⟨h.table, .inl h.objects⟩
  | marked failures =>
    obtain ⟨rfl, failure, rfl⟩ := hends
    exact ⟨h.table, .inr ⟨h.markerAdded rfl, hsince ▸ htrace⟩⟩
  | counted =>
    cases hends
    exact ⟨hsince ▸ htrace, h.markerAdded rfl, h.oneMoreSent⟩

end Steps

theorem attempt_completes (settings : Settings) (key : String) (headers : FileHeaders)
    (hstore : settings.retries.objectStore.DelaysDefined) :
    Completes (attempt settings key headers).run := by
  unfold attempt
  refine (Completes.retryIf (Call.completes_errand _) hstore).andThen fun object => ?_
  refine Completes.andThen .done fun envelope => ?_
  refine (Call.completes_errand _).andThen fun dataKey => ?_
  exact Completes.andThen .done fun stream => Call.completes_errand _

/-- The work on an object ends, if all delays between attempts have values. -/
theorem process_completes (settings : Settings) (key : String)
    (hstore : settings.retries.objectStore.DelaysDefined)
    (hdelivery : settings.retries.delivery.DelaysDefined)
    (htable : settings.retries.statusTable.DelaysDefined) :
    Completes (process settings key).run := by
  have hsent : Completes (alreadySent settings key).run := by
    unfold alreadySent
    split
    · exact .done
    · exact Completes.retryIf (Call.completes_errand _) hstore
  have hdeliver : Completes (deliver settings key).run :=
    Completes.andThen .done fun topic =>
      Completes.retryIf (attempt_completes settings key _ hstore) hdelivery
  have hreject : Completes (deliverOrReject settings key).run := by
    refine Completes.orElse (hdeliver.andThen fun _ => .done) fun failure => ?_
    split <;> exact .done
  have hmarker : Completes (writeMarker settings key).run :=
    (Completes.retryIf (Call.completes_errand _) hstore).andThen fun _ => .done
  have hcount : Completes (Tracker.ofSettings settings).countSent.run :=
    (Completes.retryIf (Call.completes_errand _) htable).andThen fun _ => .done
  unfold process
  refine hsent.andThen fun sent => ?_
  split
  · exact .done
  · refine hreject.andThen fun rejection => ?_
    cases rejection with
    | some reason => exact .done
    | none => exact hmarker.andThen fun _ => hcount.andThen fun _ => .done

/-- Whatever the outcome of the work on an object is, it tells what has been called, stored and
    counted. -/
theorem account_of_process {before : World} {outcome : Except Failure ItemOutcome}
    (houtcome : (World.run (process settings key) before).1 = some outcome) :
    Account settings key before (World.run (process settings key) before).2 outcome := by
  have hpass (phase : Phase) (world : World) (nanos : Nat)
      (h : Record settings key before phase world) :
      Record settings key before phase (world.pass nanos) :=
    ⟨h.events, h.objects, h.table, h.pieceSize⟩
  obtain ⟨phase, hends, hrecord⟩ := (process_follows settings key).run
    (Record.start before) (fun _ _ _ hallowed h => h.turn hallowed) hpass houtcome
  exact hrecord.account hends

/-- The work on an object has an outcome whatever the collaborators hold and whichever of their
    calls fail, and the outcome tells what has been called, stored and counted. -/
theorem process_account (settings : Settings) (key : String) (before : World)
    (hstore : settings.retries.objectStore.DelaysDefined)
    (hdelivery : settings.retries.delivery.DelaysDefined)
    (htable : settings.retries.statusTable.DelaysDefined) :
    ∃ outcome, (World.run (process settings key) before).1 = some outcome ∧
      Account settings key before (World.run (process settings key) before).2 outcome := by
  have hcompletes := process_completes settings key hstore hdelivery htable
  obtain ⟨outcome, houtcome⟩ := Option.isSome_iff_exists.1 (hcompletes.isSome_run before)
  exact ⟨outcome, houtcome, account_of_process settings key houtcome⟩

end Item

namespace Sample

open Memory

/-- A run that tries every call once, but for those to the status table, which it tries twice. -/
def settings : Settings where
  run := ⟨"id", "db.core.thing", "2020-01-01", "full", "id", "table", "exp/job", false, false⟩
  cloud := .standard
  storage := ⟨"bucket", "exp/job", "exp", "status", true⟩
  keyService := ⟨"", 1, 1⟩
  ingestion := ⟨"", 1, 1⟩
  monitoringTopic := none
  handling := ⟨1, 0, [], false⟩
  retries := { RetryPolicies.once with statusTable := ⟨2, 0, .one⟩ }

/-- The key of an object of the run. -/
def key : String := "exp/job/db.core.thing-000001.txt.gz.enc"

/-- The run's only object, which has been exported and not been sent. -/
def world : World :=
  { World.empty with
    objects := [(key, ⟨[], [("iv", "AAAAAAAAAAAAAAAAAAAAAA=="), ("dataKeyEncryptionKeyId", "k"),
      ("cipherText", "w")]⟩)]
    table := [(("id", "db.core.thing"), ⟨.exported, some 1, none⟩)]
    dataKeys := [⟨"k", "w", "0123456789abcdef"⟩] }

/-- The status table fails the next two calls that count a file. -/
def countingFails : World :=
  world.plan .increment (List.replicate 2 (some ⟨.statusTable, .reported "throttled"⟩))

end Sample

namespace Item

open Memory

theorem process_account_countingFails :
    (Sample.settings.retries.objectStore.DelaysDefined ∧
      Sample.settings.retries.delivery.DelaysDefined ∧
      Sample.settings.retries.statusTable.DelaysDefined) ∧
    ∃ failure, (World.run (process Sample.settings Sample.key) Sample.countingFails).1 =
        some (.error failure) ∧
      Account Sample.settings Sample.key Sample.countingFails
        (World.run (process Sample.settings Sample.key) Sample.countingFails).2
        (.error failure) ∧
      ∃ marker, find? (World.run (process Sample.settings Sample.key)
            Sample.countingFails).2.objects
          "status/job/db.core.thing-000001.txt.gz.enc.finished" = some marker ∧
        marker.body.bytes =
          .ok "Finished exp/job/db.core.thing-000001.txt.gz.enc".toUTF8.toList ∧
        marker.metadata =
          [("original-s3-filename", "exp/job/db.core.thing-000001.txt.gz.enc"),
            ("x-amz-meta-title", "status/job/db.core.thing-000001.txt.gz.enc.finished")] := by
  have honce : RetryPolicy.once.DelaysDefined := fun attempt hone hlast =>
    absurd hlast (Nat.not_lt.2 hone)
  have htwice : Sample.settings.retries.statusTable.DelaysDefined := by
    intro attempt hone hlast
    obtain rfl : attempt = 1 := Nat.le_antisymm (Nat.le_of_lt_succ hlast) hone
    decide +kernel
  refine ⟨⟨honce, honce, htwice⟩, ?_⟩
  obtain ⟨outcome, houtcome, haccount⟩ :=
    process_account Sample.settings Sample.key Sample.countingFails honce honce htwice
  have hfailed : ((World.run (process Sample.settings Sample.key) Sample.countingFails).1.all
      fun outcome => outcome.toOption.isNone) := by
    decide +kernel
  rw [houtcome] at hfailed
  cases outcome with
  | error failure =>
    have hmarker : markerKey Sample.settings Sample.key =
        "status/job/db.core.thing-000001.txt.gz.enc.finished" := by decide +kernel
    have hadded : (find? (World.run (process Sample.settings Sample.key)
        Sample.countingFails).2.objects
        "status/job/db.core.thing-000001.txt.gz.enc.finished").isSome := by decide +kernel
    obtain hsame | ⟨⟨⟨marker, hfind, hbytes, hmetadata⟩, -⟩, -⟩ := haccount.2
    · rw [hsame] at hadded
      exact absurd hadded (by decide +kernel)
    · rw [hmarker] at hfind hmetadata
      exact ⟨failure, houtcome, haccount, marker, hfind, hbytes, hmetadata⟩
  | ok => cases hfailed

end Item

end Courier

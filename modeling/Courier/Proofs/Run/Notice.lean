import Courier.Proofs.Memory.Errand
import Courier.Proofs.Text.Pieces
import Courier.Run.Notice

/-!
The notice to the operators. It is attempted only if there is a topic for it and something to tell;
the topic takes it at most once, and whether it does has no effect on the result. The calls show
which completion has been told.
-/

namespace Courier

open Memory Program

namespace Completion

theorem ofStatuses_eq_successful_iff (statuses : List ExportStatus) :
    ofStatuses statuses = .successful ↔
      statuses ≠ [] ∧ ∀ status ∈ statuses, status.isDelivered := by
  simp only [ofStatuses, List.isEmpty_iff, List.all_eq_true, List.any_eq_true]
  split
  · next hempty => simp [hempty]
  · next hne =>
    split
    · next hall => exact iff_of_true rfl ⟨hne, hall⟩
    · next hall =>
      have hnot : ¬ (statuses ≠ [] ∧ ∀ status ∈ statuses, status.isDelivered) := fun h => hall h.2
      split <;> simp only [hnot, reduceCtorEq]

theorem ofStatuses_eq_unsuccessful_iff (statuses : List ExportStatus) :
    ofStatuses statuses = .unsuccessful ↔ ∃ status ∈ statuses, status.isFailed := by
  simp only [ofStatuses, List.isEmpty_iff, List.all_eq_true, List.any_eq_true]
  split
  · next hempty => simp [hempty]
  · split
    · next hall =>
      -- a status that has been delivered is not a failed one
      refine ⟨nofun, fun ⟨status, hmem, hfailed⟩ => ?_⟩
      have hdelivered := hall status hmem
      cases status <;> cases hfailed <;> cases hdelivered
    · split
      · next hany => simp [hany]
      · next hany => simp [hany]

/-- The order of the collections does not matter. -/
theorem ofStatuses_perm {statuses statuses' : List ExportStatus} (h : statuses.Perm statuses') :
    ofStatuses statuses = ofStatuses statuses' := by
  unfold ofStatuses
  rw [h.isEmpty_eq, h.all_eq, h.any_eq]

end Completion

/-- The monitoring topic has taken a message. -/
def Memory.Event.isPublished : Event → Bool
  | ⟨.publish _ _, none⟩ => true
  | _ => false

namespace Notice

/-- Calls that publish nothing leave nothing with the topic. -/
theorem countP_isPublished_eq_zero {events : List Event}
    (h : ∀ event ∈ events, kindOf event.call ≠ .publish) :
    events.countP Event.isPublished = 0 := by
  refine List.countP_eq_zero.2 fun event hevent hpublished => ?_
  have hkind := h event hevent
  obtain ⟨call, fault⟩ := event
  cases call with
  | publish => exact hkind rfl
  | _ => cases hpublished

/-- A message to the operators, as it is published: how severe it is, of what kind, and how the
    export has gone. -/
def wording (run : ExportRun) (severity kind outcome : String) : String :=
  (Json.object [("severity", .string severity), ("notification_type", .string kind),
    ("slack_username", .string "Crown Export Poller"),
    ("title_text", .string (Text.capitalise run.snapshotType ++ " - All files sent - " ++ outcome)),
    ("custom_elements", .array
      [.object [("key", .string "Export date"), ("value", .string run.exportDate)],
        .object [("key", .string "Correlation Id"), ("value", .string run.correlationId)]])]).text

theorem text_unsuccessful (run : ExportRun) :
    (ofCompletion run .unsuccessful).text = wording run "High" "Error" "Failed" := rfl

theorem text_successful (run : ExportRun) :
    (ofCompletion run .successful).text =
      wording run "Informational" "Information" "Completed successfully" := rfl

/-- The operators can tell a failed run from a successful one. -/
theorem text_unsuccessful_ne (run : ExportRun) :
    (ofCompletion run .unsuccessful).text ≠ (ofCompletion run .successful).text := by
  intro h
  have hchars := congrArg String.toList h
  simp [text, json, ofCompletion, Json.text, Json.memberTexts, Json.stringText, Json.escapeChar,
    String.toList_intercalate] at hchars

/-- There is a topic just if one is named that is not blank. -/
theorem topic?_eq_some_iff {settings : Settings} {arn : String} :
    topic? settings = some arn ↔
      settings.monitoringTopic = some arn ∧ ∃ c ∈ arn.toList, Text.isBlank c = false := by
  rw [topic?, Option.filter_eq_some_iff, Bool.not_eq_true', ← Bool.not_eq_true,
    Text.trim_isEmpty_iff]
  simp only [not_forall, Bool.not_eq_true, exists_prop]

/-- Attempts to publish one message. Only the last of them may have succeeded. -/
structure Tried (arn message : String) (events : List Event) : Prop where
  nonempty : events ≠ []
  calls : ∀ event ∈ events, event.call = .publish arn message
  once : events.countP Event.isPublished ≤ 1

/-- What attempts to publish a message leave behind. -/
def Leaves (arn message : String) (before after : World) : Prop :=
  after.table = before.table ∧ ∃ events, before.Adds after events ∧ Tried arn message events

theorem leaves_answer (arn message : String) (world : World) :
    Leaves arn message world (world.answer (.publish arn message)).2 :=
  ⟨World.answer_table_of_ne nofun nofun, _, world.adds_answer _, List.cons_ne_nil _ _,
    List.forall_mem_singleton.2 rfl, List.countP_le_length⟩

/-- A failed attempt comes before the others. -/
theorem Leaves.of_planned {arn message : String} {world after : World} {failure : Failure}
    (hplanned : world.planned (.publish arn message) = some failure)
    (h : Leaves arn message (world.answer (.publish arn message)).2 after) :
    Leaves arn message world after := by
  obtain ⟨htable, events, hadds, hnonempty, hcalls, honce⟩ := h
  refine ⟨htable.trans (World.answer_table_of_ne nofun nofun), _,
    (world.adds_answer _).trans hadds, List.cons_ne_nil _ _, ?_, ?_⟩
  · exact List.forall_mem_cons.2 ⟨rfl, hcalls⟩
  · rw [hplanned]
    exact honce

theorem leaves_retryFrom (arn message : String) (delay : Nat → Option Nat) (left attempt : Nat)
    (world : World) :
    Leaves arn message world ((retryFrom delay (fun _ => true) (Call.publish arn message).errand.run
      left attempt).run World.answer World.pass world).2 := by
  induction left generalizing attempt world with
  | zero => exact leaves_answer arn message world
  | succ left ih =>
    have hone := leaves_answer arn message world
    have hrun : (Call.publish arn message).errand.run.run World.answer World.pass world =
        (some (world.answer (.publish arn message)).1, (world.answer (.publish arn message)).2) :=
      rfl
    unfold retryFrom
    rw [run_bind_of_eq hrun]
    obtain ⟨failure, hplanned, hanswer⟩ | ⟨hplanned, hanswer⟩ :=
      world.answer_cases (.publish arn message)
    · rw [hanswer] at hone ⊢
      simp only [if_true]
      cases delay attempt with
      | none => exact hone
      | some nanos =>
        refine Leaves.of_planned hplanned ?_
        rw [hanswer]
        exact ih (attempt + 1) ((world.noted (.publish arn message)).pass nanos)
    · rw [hanswer] at hone ⊢
      exact hone

/-- The completion is published at all. -/
def IsDue (settings : Settings) (completion : Completion) : Prop :=
  (topic? settings).isSome ∧ settings.run.isHeartbeat = false ∧ completion ≠ .notCompleted

/-- Nothing is published without a topic that is not blank, or for a run that only shows the service
    is alive. -/
theorem not_isDue_of_suppressed {settings : Settings}
    (h : (∀ arn, settings.monitoringTopic = some arn → ∀ c ∈ arn.toList, Text.isBlank c) ∨
      settings.run.exportDate = "NIFI_HEARTBEAT") (completion : Completion) :
    ¬ IsDue settings completion := by
  rintro ⟨htopic, hheartbeat, -⟩
  rcases h with hblank | hsilent
  · obtain ⟨arn, harn⟩ := Option.isSome_iff_exists.1 htopic
    obtain ⟨hnamed, c, hmem, hc⟩ := topic?_eq_some_iff.1 harn
    cases hc.symm.trans (hblank arn hnamed c hmem)
  · simp [ExportRun.isHeartbeat, ExportRun.heartbeatDate, hsilent] at hheartbeat

/-- A completion is published to the topic that is named, if the topic is not blank. -/
theorem isDue_of_named {settings : Settings} {arn : String} {completion : Completion}
    (hnamed : settings.monitoringTopic = some arn)
    (hvisible : ∃ c ∈ arn.toList, Text.isBlank c = false)
    (hloud : settings.run.exportDate ≠ "NIFI_HEARTBEAT")
    (hcompletion : completion ≠ .notCompleted) :
    IsDue settings completion := by
  refine ⟨?_, ?_, hcompletion⟩
  · rw [topic?_eq_some_iff.2 ⟨hnamed, hvisible⟩]
    rfl
  · simpa [ExportRun.isHeartbeat, ExportRun.heartbeatDate] using hloud

/-- Whether or not a notice could be published, it has no effect on the result. -/
theorem result_publish (settings : Settings) (completion : Completion) (world : World)
    {result : Except Failure Unit}
    (hresult : (World.run (publish settings completion) world).1 = some result) :
    result = .ok () := by
  unfold publish at hresult
  split at hresult
  · cases hresult
    rfl
  · split at hresult
    · cases hresult
      rfl
    · rw [World.run_orElse] at hresult
      split at hresult
      · cases hresult
        rfl
      · cases hresult
        rfl
      · cases hresult

theorem run_publish_of_not_isDue {settings : Settings} {completion : Completion}
    (h : ¬ IsDue settings completion) (world : World) :
    World.run (publish settings completion) world = (some (.ok ()), world) := by
  unfold publish
  split
  · rfl
  · next arn htopic =>
    split
    · rfl
    · next hloud =>
      rw [not_or, Bool.not_eq_true] at hloud
      exact absurd ⟨by rw [htopic]; rfl, hloud⟩ h

theorem leaves_publish {settings : Settings} {completion : Completion} {arn : String}
    (harn : topic? settings = some arn) (h : IsDue settings completion) (world : World) :
    Leaves arn (ofCompletion settings.run completion).text world
      (World.run (publish settings completion) world).2 := by
  obtain ⟨-, hheartbeat, hcompletion⟩ := h
  unfold publish
  simp only [harn, hheartbeat, hcompletion, Bool.false_eq_true, or_self, if_false]
  change Leaves arn _ world
    ((((retry settings.retries.notification (Call.publish arn _).errand).run.bind
      (ExceptT.bindCont fun _ => pure ())).bind _).run World.answer World.pass world).2
  rw [snd_run_bind, snd_run_bind]
  · exact leaves_retryFrom arn _ _ _ 1 world
  · rintro (failure | value) <;> exact ⟨_, rfl⟩
  · rintro (failure | value) <;> exact ⟨_, rfl⟩

/-- What a notice of a verdict looks like in the calls at the end of a run. -/
inductive Told (settings : Settings) (verdict : Option Completion) : List Event → Prop
  | silent (h : ∀ completion, verdict = some completion → ¬ IsDue settings completion) :
    Told settings verdict []
  | told {arn : String} {completion : Completion} {events : List Event}
    (hverdict : verdict = some completion) (hdue : IsDue settings completion)
    (harn : topic? settings = some arn)
    (htried : Tried arn (ofCompletion settings.run completion).text events) :
    Told settings verdict events

/-- There is an attempt to publish a message. -/
def Attempted (arn message : String) (events : List Event) : Prop :=
  ∃ event ∈ events, event.call = .publish arn message

/-- Calls that publish nothing tell of nothing. -/
theorem attempted_append_iff {arn message : String} {front back : List Event}
    (h : ∀ event ∈ front, kindOf event.call ≠ .publish) :
    Attempted arn message (front ++ back) ↔ Attempted arn message back := by
  constructor
  · rintro ⟨event, hevent, hcall⟩
    rcases List.mem_append.1 hevent with hfront | hback
    · exact absurd (congrArg kindOf hcall) (h event hfront)
    · exact ⟨event, hback, hcall⟩
  · rintro ⟨event, hevent, hcall⟩
    exact ⟨event, List.mem_append_right _ hevent, hcall⟩

theorem told_publish (settings : Settings) (completion : Completion) (world : World) :
    ∃ events, Told settings (some completion) events ∧
      world.Adds (World.run (publish settings completion) world).2 events ∧
      (World.run (publish settings completion) world).2.table = world.table := by
  by_cases hdue : IsDue settings completion
  · obtain ⟨arn, harn⟩ := Option.isSome_iff_exists.1 hdue.1
    obtain ⟨htable, events, hadds, htried⟩ := leaves_publish harn hdue world
    exact ⟨events, .told rfl hdue harn htried, hadds, htable⟩
  · rw [run_publish_of_not_isDue hdue]
    exact ⟨[], .silent fun _ h => Option.some.inj h ▸ hdue, rfl, rfl⟩

namespace Told

variable {settings : Settings} {verdict : Option Completion} {events : List Event}

theorem once (h : Told settings verdict events) : events.countP Event.isPublished ≤ 1 := by
  cases h with
  | silent => exact Nat.zero_le 1
  | told _ _ _ htried => exact htried.once

theorem calls (h : Told settings verdict events) :
    ∀ event ∈ events, kindOf event.call = .publish := by
  cases h with
  | silent => exact List.forall_mem_nil _
  | told _ _ _ htried =>
    intro event hevent
    rw [htried.calls event hevent]
    rfl

theorem eq_nil (h : Told settings verdict events)
    (hverdict : ∀ completion, verdict = some completion → ¬ IsDue settings completion) :
    events = [] := by
  cases h with
  | silent => rfl
  | told hcompletion hdue => exact absurd hdue (hverdict _ hcompletion)

/-- An attempt to tell of a failure or a success tells of the verdict. -/
theorem verdict_of_attempted (h : Told settings verdict events) {arn : String}
    {completion : Completion} (hcompleted : completion ≠ .notCompleted)
    (hattempted : Attempted arn (ofCompletion settings.run completion).text events) :
    verdict = some completion := by
  obtain ⟨event, hevent, hcall⟩ := hattempted
  cases h with
  | silent => cases hevent
  | @told _ given _ hverdict hdue _ htried =>
    have htext : (ofCompletion settings.run given).text =
        (ofCompletion settings.run completion).text :=
      (Call.publish.inj ((htried.calls event hevent).symm.trans hcall)).2
    rw [hverdict]
    cases given with
    | notCompleted => exact absurd rfl hdue.2.2
    | successful =>
      cases completion with
      | notCompleted => exact absurd rfl hcompleted
      | successful => rfl
      | unsuccessful => exact absurd htext.symm (text_unsuccessful_ne settings.run)
    | unsuccessful =>
      cases completion with
      | notCompleted => exact absurd rfl hcompleted
      | successful => exact absurd htext (text_unsuccessful_ne settings.run)
      | unsuccessful => rfl

theorem attempted (h : Told settings verdict events) {arn : String} {completion : Completion}
    (hverdict : verdict = some completion) (hdue : IsDue settings completion)
    (hnamed : settings.monitoringTopic = some arn) :
    Attempted arn (ofCompletion settings.run completion).text events := by
  cases h with
  | silent hsilent => exact absurd hdue (hsilent completion hverdict)
  | told hgiven _ harn htried =>
    cases hverdict.symm.trans hgiven
    cases hnamed.symm.trans (topic?_eq_some_iff.1 harn).1
    obtain ⟨event, hevent⟩ := List.exists_mem_of_ne_nil _ htried.nonempty
    exact ⟨event, hevent, htried.calls event hevent⟩

/-- A message tells of a failure or of a success, and goes to the topic that is named. -/
theorem messages (h : Told settings verdict events) :
    ∀ event ∈ events, ∃ arn, settings.monitoringTopic = some arn ∧
      (event.call = .publish arn (wording settings.run "High" "Error" "Failed") ∨
        event.call = .publish arn
          (wording settings.run "Informational" "Information" "Completed successfully")) := by
  cases h with
  | silent => exact List.forall_mem_nil _
  | @told arn completion _ _ hdue harn htried =>
    refine fun event hevent => ⟨arn, (topic?_eq_some_iff.1 harn).1, ?_⟩
    rw [htried.calls event hevent]
    cases completion with
    | notCompleted => exact absurd rfl hdue.2.2
    | unsuccessful => exact .inl rfl
    | successful => exact .inr rfl

end Told

end Notice

end Courier

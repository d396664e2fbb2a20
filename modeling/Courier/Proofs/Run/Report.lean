import Courier.Proofs.Item.Account
import Courier.Proofs.Run.Notice
import Courier.Proofs.Run.Survey

/-!
What the operators hear of a run. The end of a run first finds out how the run and its export have
gone, and publishes at most one notice of that, at the very end; so the notice says what has been
found, and the result of the run does not depend on whether it could be published.
-/

namespace Courier

open Memory Program

namespace Closing

/-- What is known at the end of a run before anything is published: its own failure, or what it has
    found out. -/
def findings (settings : Settings) (run : Except Failure Summary) (world : World) :
    Option (Except Failure (Option (List StatusRecord))) × World :=
  match run with
  | .error failure => (some (.error failure), world)
  | .ok _ => World.run (survey settings) world

/-- The completion of which the operators are to be told. -/
def verdict? : Except Failure (Option (List StatusRecord)) → Option Completion
  | .error _ => some .unsuccessful
  | .ok none => none
  | .ok (some records) => some (.ofStatuses (records.map StatusRecord.status))

/-- What the end of a run does with the result of its survey. -/
def settle (settings : Settings) : Except Failure (Option (List StatusRecord)) → Errand Unit
  | .error failure => do
    Notice.publish settings .unsuccessful
    throw failure
  | .ok found => report settings found

theorem run_report (settings : Settings) (found : Option (List StatusRecord)) (world : World)
    {result : Except Failure Unit}
    (hresult : (World.run (report settings found) world).1 = some result) : result = .ok () := by
  cases found with
  | none =>
    cases hresult
    rfl
  | some records => exact Notice.result_publish settings _ world hresult

theorem run_afterRun_ok (settings : Settings) (summary : Summary) (world : World) :
    World.run (afterRun settings (.ok summary)) world =
      match World.run (survey settings) world with
      | (some found, after) => World.run (settle settings found) after
      | (none, after) => (none, after) := by
  unfold afterRun
  rw [World.run_orElse, complete_eq, World.run_andThen]
  rcases World.run (survey settings) world with ⟨_ | failure | found, after⟩
  · rfl
  · rfl
  · dsimp only [settle]
    split
    · next value last hreport => rw [hreport]
    · next failure last hreport => cases run_report settings found after (congrArg Prod.fst hreport)
    · next last hreport => rw [hreport]

section Settle

variable (settings : Settings) (found : Except Failure (Option (List StatusRecord)))
  (world : World)

theorem run_settle {result : Except Failure Unit}
    (hresult : (World.run (settle settings found) world).1 = some result) :
    result = found.map fun _ => () := by
  cases found with
  | ok found => exact run_report settings found world hresult
  | error failure =>
    dsimp only [settle] at hresult
    rw [World.run_andThen] at hresult
    split at hresult
    · cases hresult
      rfl
    · next other after hpublish =>
      cases Notice.result_publish settings _ world (congrArg Prod.fst hpublish)
    · cases hresult

/-- All that happens after the survey is that the verdict is published. -/
theorem snd_run_settle :
    (World.run (settle settings found) world).2 =
      match verdict? found with
      | none => world
      | some completion => (World.run (Notice.publish settings completion) world).2 := by
  rcases found with failure | _ | records
  · dsimp only [settle, verdict?]
    rw [World.run_andThen]
    split
    · next value after hpublish => rw [hpublish]; rfl
    · next other after hpublish => rw [hpublish]
    · next after hpublish => rw [hpublish]
  · rfl
  · rfl

end Settle

variable (settings : Settings) (run : Except Failure Summary) (world : World)

/-- The result of the whole is the run's own failure, or else what has failed in the survey. -/
theorem result_afterRun {ended : Except Failure Unit}
    (hended : (World.run (afterRun settings run) world).1 = some ended) :
    ∃ found, (findings settings run world).1 = some found ∧
      result run ended = run.bind fun summary => found.map fun _ => summary := by
  cases run with
  | error failure => exact ⟨_, rfl, rfl⟩
  | ok summary =>
    rw [run_afterRun_ok] at hended
    split at hended
    · next found after hsurvey =>
      refine ⟨found, congrArg Prod.fst hsurvey, ?_⟩
      rw [run_settle settings found after hended]
      cases found <;> rfl
    · cases hended

theorem snd_afterRun :
    (World.run (afterRun settings run) world).2 =
      match (findings settings run world).1.bind verdict? with
      | none => (findings settings run world).2
      | some completion =>
        (World.run (Notice.publish settings completion) (findings settings run world).2).2 := by
  cases run with
  | error failure => rfl
  | ok summary =>
    dsimp only [findings]
    rw [run_afterRun_ok]
    split
    · next found after hsurvey =>
      rw [hsurvey]
      exact snd_run_settle settings found after
    · next after hsurvey =>
      rw [hsurvey]
      rfl

section Verdict

variable (found : Option (Except Failure (Option (List StatusRecord))))

theorem verdict_eq_unsuccessful_iff :
    found.bind verdict? = some .unsuccessful ↔
      (∃ failure, found = some (.error failure)) ∨
        ∃ records, found = some (.ok (some records)) ∧
          ∃ record ∈ records, record.status.isFailed := by
  rcases found with _ | failure | _ | records
  · simp
  · simp [verdict?]
  · simp [verdict?]
  · simp only [verdict?, Option.bind_some, Option.some.injEq, List.mem_map, reduceCtorEq,
      Completion.ofStatuses_eq_unsuccessful_iff, exists_false, false_or, Except.ok.injEq,
      exists_eq_left']
    constructor
    · rintro ⟨_, ⟨record, hrecord, rfl⟩, hfailed⟩
      exact ⟨record, hrecord, hfailed⟩
    · rintro ⟨record, hrecord, hfailed⟩
      exact ⟨_, ⟨record, hrecord, rfl⟩, hfailed⟩

theorem verdict_eq_successful_iff :
    found.bind verdict? = some .successful ↔
      ∃ records, found = some (.ok (some records)) ∧ records ≠ [] ∧
        ∀ record ∈ records, record.status.isDelivered := by
  rcases found with _ | failure | _ | records
  · simp
  · simp [verdict?]
  · simp [verdict?]
  · simp [verdict?, Completion.ofStatuses_eq_successful_iff]

end Verdict

/-- What has been found out at the end of a run is what the calls have shown. -/
theorem findings_surveyed {summary : Summary} {asked : List Event}
    {found : Except Failure (Option (List StatusRecord))} (hrun : run = .ok summary)
    (hasked : world.Adds (findings settings run world).2 asked)
    (hfound : (findings settings run world).1 = some found) :
    Surveyed settings asked found ∧ ∀ records, found = .ok (some records) →
      records = (findings settings run world).2.table.records settings.run.correlationId := by
  subst hrun
  obtain ⟨events, hevents, hsurveyed, hrecords⟩ := run_survey settings world hfound
  have hsame : asked = events :=
    (World.eventsSince_eq hasked).symm.trans (World.eventsSince_eq hevents)
  exact ⟨hsame ▸ hsurveyed, hrecords⟩

/-- What is found out does not depend on whether anything could be published. -/
theorem findings_replanned (faults : List (Option Failure)) :
    (findings settings run (world.replanned .publish faults)).1 =
      (findings settings run world).1 := by
  cases run with
  | error failure => rfl
  | ok summary =>
    have hmakes := (survey_makes settings).mono fun _ h => h.kindOf_ne
    dsimp only [findings, World.run]
    rw [World.run_replanned faults world hmakes]

theorem findings_onlyAdds :
    world.OnlyAdds (Explores settings) (findings settings run world).2 := by
  cases run with
  | error failure => exact ⟨[], rfl, List.forall_mem_nil _⟩
  | ok summary => exact World.onlyAdds_run (survey_makes settings) world

/-- The calls at the end of a run are those of the survey, and then those that tell the verdict. -/
theorem afterRun_adds :
    ∃ told, Notice.Told settings ((findings settings run world).1.bind verdict?) told ∧
      (findings settings run world).2.Adds (World.run (afterRun settings run) world).2 told ∧
      (World.run (afterRun settings run) world).2.table =
        (findings settings run world).2.table := by
  rw [snd_afterRun]
  split
  · next hverdict =>
    rw [hverdict]
    exact ⟨[], .silent nofun, rfl, rfl⟩
  · next completion hverdict =>
    rw [hverdict]
    exact Notice.told_publish settings completion _

section Completes

theorem publish_completes (completion : Completion)
    (hnotification : settings.retries.notification.DelaysDefined) :
    Completes (Notice.publish settings completion).run := by
  unfold Notice.publish
  split
  · exact .done
  · split
    · exact .done
    · refine Completes.orElse ?_ fun _ => .done
      exact (Completes.retryIf (Call.completes_errand _) hnotification).andThen fun _ => .done

theorem postIndicator_completes (hindicator : settings.retries.indicator.DelaysDefined) :
    Completes (postIndicator settings).run := by
  unfold postIndicator
  split
  · exact .done
  · exact (Completes.retryIf (Call.completes_errand _) hindicator).orElse fun _ => .done

theorem moveOn_completes (htable : settings.retries.statusTable.DelaysDefined)
    (hindicator : settings.retries.indicator.DelaysDefined) :
    Completes (moveOn settings).run := by
  have hcurrent : Completes (Tracker.ofSettings settings).current.run :=
    (Call.completes_errand _).andThen fun _ => .done
  refine Completes.andThen (Completes.retryIf (hcurrent.andThen fun record => ?_) htable)
    fun state => ?_
  · split
    · refine (Call.completes_errand _).andThen fun applied => ?_
      cases applied with
      | true => exact .done
      | false => exact hcurrent.andThen fun _ => .done
    · exact .done
  · split
    · exact postIndicator_completes settings hindicator
    · exact .done

theorem survey_completes (htable : settings.retries.statusTable.DelaysDefined)
    (hindicator : settings.retries.indicator.DelaysDefined) : Completes (survey settings).run := by
  unfold survey
  split
  · exact (postIndicator_completes settings hindicator).andThen fun _ => .done
  · refine (moveOn_completes settings htable hindicator).andThen fun _ => ?_
    exact (Completes.retryIf (Call.completes_errand _) htable).andThen fun _ => .done

/-- The end of a run has a result, if all delays between attempts have values. -/
theorem afterRun_completes (htable : settings.retries.statusTable.DelaysDefined)
    (hindicator : settings.retries.indicator.DelaysDefined)
    (hnotification : settings.retries.notification.DelaysDefined) :
    Completes (afterRun settings run).run := by
  have hpublish (completion : Completion) : Completes (Notice.publish settings completion).run :=
    publish_completes settings completion hnotification
  cases run with
  | error failure => exact hpublish .unsuccessful
  | ok summary =>
    refine Completes.orElse ?_ fun failure => (hpublish .unsuccessful).andThen fun _ => .done
    rw [complete_eq]
    refine (survey_completes settings htable hindicator).andThen fun found => ?_
    cases found with
    | none => exact .done
    | some records => exact hpublish _

end Completes

/-- Nothing keeps the survey from its end: the run has failed before, the whole has ended, or the
    delays between the attempts have values. -/
def Reached (settings : Settings) (run : Except Failure Summary)
    (ended : Option (Except Failure Unit)) : Prop :=
  (∃ failure, run = .error failure) ∨ ended.isSome ∨
    settings.retries.statusTable.DelaysDefined ∧ settings.retries.indicator.DelaysDefined

theorem Reached.exists_findings
    (h : Reached settings run (World.run (afterRun settings run) world).1) :
    ∃ found, (findings settings run world).1 = some found := by
  obtain ⟨failure, rfl⟩ | hended | ⟨htable, hindicator⟩ := h
  · exact ⟨_, rfl⟩
  · obtain ⟨ended, hended⟩ := Option.isSome_iff_exists.1 hended
    obtain ⟨found, hfound, -⟩ := result_afterRun settings run world hended
    exact ⟨found, hfound⟩
  · cases run with
    | error failure => exact ⟨_, rfl⟩
    | ok summary =>
      exact Option.isSome_iff_exists.1
        ((survey_completes settings htable hindicator).isSome_run world)

/-- The export has failed, as far as the end of the run can tell: the run has failed, or a stage at
    its end, or the rows have been given and one of them tells of a failure. -/
def Unsuccessful (settings : Settings) (run : Except Failure Summary) (events : List Event)
    (table : Table) : Prop :=
  (∃ failure, run = .error failure) ∨ (∃ failure, Fails settings events failure) ∨
    Queried settings events ∧ ∃ record ∈ table.records settings.run.correlationId,
      record.status ∈ [.exportFailed, .blockedTopic, .tableUnavailable]

section Verdict

variable {settings : Settings} {run : Except Failure Summary} {world : World} {asked : List Event}
  (hasked : world.Adds (findings settings run world).2 asked)

include hasked

theorem unsuccessful_of_verdict
    (h : (findings settings run world).1.bind verdict? = some .unsuccessful) :
    Unsuccessful settings run asked (findings settings run world).2.table := by
  cases run with
  | error failure => exact .inl ⟨failure, rfl⟩
  | ok summary =>
    obtain ⟨failure, hfound⟩ | ⟨records, hfound, hfailed⟩ := (verdict_eq_unsuccessful_iff _).1 h
    · obtain ⟨⟨hfails⟩, -⟩ := findings_surveyed settings _ world rfl hasked hfound
      exact .inr (.inl ⟨failure, hfails⟩)
    · obtain ⟨hsurveyed, hrecords⟩ := findings_surveyed settings _ world rfl hasked hfound
      cases hsurveyed with
      | given _ _ _ hqueried =>
        simp only [ExportStatus.isFailed_iff] at hfailed
        exact .inr (.inr ⟨hqueried, hrecords records rfl ▸ hfailed⟩)

theorem verdict_of_unsuccessful (hexplores : ∀ event ∈ asked, Explores settings event.call)
    {found : Except Failure (Option (List StatusRecord))}
    (hfound : (findings settings run world).1 = some found)
    (h : Unsuccessful settings run asked (findings settings run world).2.table) :
    (findings settings run world).1.bind verdict? = some .unsuccessful := by
  rw [verdict_eq_unsuccessful_iff]
  cases run with
  | error failure => exact .inl ⟨failure, rfl⟩
  | ok summary =>
    obtain ⟨hsurveyed, hrecords⟩ := findings_surveyed settings _ world rfl hasked hfound
    cases hsurveyed with
    | failed => exact .inl ⟨_, hfound⟩
    | posted hindicator hsettled =>
      obtain ⟨failure, hrun⟩ | ⟨failure, hfails⟩ | ⟨hqueried, -⟩ := h
      · cases hrun
      · exact absurd hfails (hsettled.not_fails failure)
      · rw [Queried, lastOf_eq_none] at hqueried
        · cases hqueried
        · intro event hevent
          rw [(hexplores event hevent).kindOf_eq hindicator]
          decide
    | given records _ hsettled =>
      obtain ⟨failure, hrun⟩ | ⟨failure, hfails⟩ | ⟨-, hfailed⟩ := h
      · cases hrun
      · exact absurd hfails (hsettled.not_fails failure)
      · rw [← hrecords records rfl] at hfailed
        simp only [← ExportStatus.isFailed_iff] at hfailed
        exact .inr ⟨records, hfound, hfailed⟩

theorem queried_of_verdict
    (h : (findings settings run world).1.bind verdict? = some .successful) :
    Queried settings asked ∧
      (findings settings run world).2.table.records settings.run.correlationId ≠ [] ∧
      ∀ record ∈ (findings settings run world).2.table.records settings.run.correlationId,
        record.status ∈ [.sent, .received, .success] := by
  obtain ⟨records, hfound, hne, hdelivered⟩ := (verdict_eq_successful_iff _).1 h
  cases run with
  | error failure => cases hfound
  | ok summary =>
    obtain ⟨hsurveyed, hrecords⟩ := findings_surveyed settings _ world rfl hasked hfound
    cases hsurveyed with
    | given _ _ _ hqueried =>
      rw [← hrecords records rfl]
      exact ⟨hqueried, hne, fun record hrecord =>
        ExportStatus.isDelivered_iff.1 (hdelivered record hrecord)⟩

/-- A run that has posted the indicator and does nothing else has no verdict. -/
theorem verdict_eq_none {summary : Summary} (hrun : run = .ok summary)
    (hindicator : settings.handling.indicatorOnly)
    (hcalm : ∀ failure, ¬ Fails settings asked failure) :
    (findings settings run world).1.bind verdict? = none := by
  cases hfound : (findings settings run world).1 with
  | none => rfl
  | some found =>
    obtain ⟨hsurveyed, -⟩ := findings_surveyed settings run world hrun hasked hfound
    cases hsurveyed with
    | failed hfails => exact absurd hfails (hcalm _)
    | posted => rfl
    | given _ hother => cases hother.symm.trans hindicator

end Verdict

/-- What holds of the end of a run, where `ended` is its result, if it has one. -/
structure Reports (settings : Settings) (run : Except Failure Summary) (before : World)
    (ended : Option (Except Failure Unit)) (after : World) : Prop where
  /-- If all delays have values, nothing keeps the run from its end. -/
  ends : settings.retries.statusTable.DelaysDefined → settings.retries.indicator.DelaysDefined →
    settings.retries.notification.DelaysDefined → ended.isSome
  /-- A failed run results in its own failure. -/
  own : ∀ failure closing, run = .error failure → ended = some closing →
    Closing.result run closing = .error failure
  /-- Any other run results in what has failed at its end, or else in its summary. -/
  result : ∀ summary closing, run = .ok summary → ended = some closing →
    (∃ failure, Fails settings (before.eventsSince after) failure ∧
      Closing.result run closing = .error failure) ∨
    (∀ failure, ¬ Fails settings (before.eventsSince after) failure) ∧
      Closing.result run closing = .ok summary
  /-- That is so whichever attempts to publish fail. -/
  unmoved : ∀ faults other closing,
    (World.run (afterRun settings run) (before.replanned .publish faults)).1 = some other →
      ended = some closing → Closing.result run other = Closing.result run closing
  /-- After a failed run nothing is done but publish. -/
  aloof : ∀ failure, run = .error failure → after.table = before.table ∧
    ∀ event ∈ before.eventsSince after, kindOf event.call = .publish
  /-- Any other run ends with the rows of its export, if nothing fails before. -/
  asked : ∀ summary, run = .ok summary → settings.handling.indicatorOnly = false →
    Reached settings run ended →
      (∃ failure, Fails settings (before.eventsSince after) failure) ∨
        Queried settings (before.eventsSince after)
  /-- The topic takes at most one message. -/
  once : (before.eventsSince after).countP Event.isPublished ≤ 1
  /-- The messages are those of a failure and of a success, and go to the topic that is named. -/
  messages : ∀ event ∈ before.eventsSince after, kindOf event.call = .publish →
    ∃ arn, settings.monitoringTopic = some arn ∧
      (event.call = .publish arn (Notice.wording settings.run "High" "Error" "Failed") ∨
        event.call = .publish arn
          (Notice.wording settings.run "Informational" "Information" "Completed successfully"))
  /-- Without a topic, with a blank one, or for a run that only shows the service is alive, there is
      no attempt. -/
  suppressed :
    ((∀ arn, settings.monitoringTopic = some arn → ∀ c ∈ arn.toList, Text.isBlank c) ∨
      settings.run.exportDate = "NIFI_HEARTBEAT") →
    ∀ event ∈ before.eventsSince after, kindOf event.call ≠ .publish
  /-- The operators are told of a failure only if there is one. -/
  failed : ∀ arn, Notice.Attempted arn (Notice.wording settings.run "High" "Error" "Failed")
      (before.eventsSince after) →
    Unsuccessful settings run (before.eventsSince after) after.table
  /-- They are told of every failure, if there is a topic and the run does not only show the service
      is alive. -/
  told : ∀ arn, settings.monitoringTopic = some arn → (∃ c ∈ arn.toList, Text.isBlank c = false) →
    settings.run.exportDate ≠ "NIFI_HEARTBEAT" → Reached settings run ended →
    Unsuccessful settings run (before.eventsSince after) after.table →
      Notice.Attempted arn (Notice.wording settings.run "High" "Error" "Failed")
        (before.eventsSince after)
  /-- They are told of a success only if the rows have been given, there are some, and all of them
      have been delivered. -/
  successful : ∀ arn, Notice.Attempted arn
      (Notice.wording settings.run "Informational" "Information" "Completed successfully")
      (before.eventsSince after) →
    Queried settings (before.eventsSince after) ∧
      after.table.records settings.run.correlationId ≠ [] ∧
      ∀ record ∈ after.table.records settings.run.correlationId,
        record.status ∈ [.sent, .received, .success]
  /-- A run that only posts the indicator makes no call to the status table. If that does not fail,
      the indicator has been posted and nothing is published. -/
  forced : settings.handling.indicatorOnly →
    (∀ event ∈ before.eventsSince after,
      kindOf event.call = .deliver ∨ kindOf event.call = .publish) ∧
    ∀ summary, run = .ok summary →
      ((∀ failure, ¬ Fails settings (before.eventsSince after) failure) →
        ∀ event ∈ before.eventsSince after, kindOf event.call ≠ .publish) ∧
      (Reached settings run ended → (Indicator.headers? settings.run.topicName).isSome →
        (∃ failure, Fails settings (before.eventsSince after) failure) ∨
          Posted (before.eventsSince after))

/-- The end of a run is its survey, and then what is published of it. -/
structure Course (settings : Settings) (run : Except Failure Summary) (before after : World)
    (asked told : List Event) : Prop where
  surveyed : before.Adds (findings settings run before).2 asked
  explores : ∀ event ∈ asked, Explores settings event.call
  published : Notice.Told settings ((findings settings run before).1.bind verdict?) told
  since : before.eventsSince after = asked ++ told
  table : after.table = (findings settings run before).2.table

theorem exists_course (settings : Settings) (run : Except Failure Summary) (before : World) :
    ∃ asked told,
      Course settings run before (World.run (afterRun settings run) before).2 asked told := by
  obtain ⟨asked, hasked, hexplores⟩ := findings_onlyAdds settings run before
  obtain ⟨told, htold, hadds, htable⟩ := afterRun_adds settings run before
  exact ⟨asked, told, hasked, hexplores, htold, World.eventsSince_eq (hasked.trans hadds), htable⟩

namespace Course

variable {settings : Settings} {run : Except Failure Summary} {before after : World}
  {asked told : List Event}

theorem quiet (h : Course settings run before after asked told) :
    ∀ event ∈ asked, kindOf event.call ≠ .publish :=
  fun event hevent => (h.explores event hevent).kindOf_ne

theorem fails_iff (h : Course settings run before after asked told) {failure : Failure} :
    Fails settings (before.eventsSince after) failure ↔ Fails settings asked failure := by
  rw [h.since]
  exact fails_append_iff settings h.published.calls

theorem queried_iff (h : Course settings run before after asked told) :
    Queried settings (before.eventsSince after) ↔ Queried settings asked := by
  rw [h.since]
  exact queried_append_iff settings h.published.calls

theorem unsuccessful_iff (h : Course settings run before after asked told) :
    Unsuccessful settings run (before.eventsSince after) after.table ↔
      Unsuccessful settings run asked (findings settings run before).2.table := by
  simp only [Unsuccessful, h.fails_iff, h.queried_iff, h.table]

theorem attempted_iff (h : Course settings run before after asked told) {arn message : String} :
    Notice.Attempted arn message (before.eventsSince after) ↔
      Notice.Attempted arn message told := by
  rw [h.since]
  exact Notice.attempted_append_iff h.quiet

/-- If the verdict is not published, nothing is. -/
theorem quiet_of_not_isDue (h : Course settings run before after asked told)
    (hsilent : ∀ completion, (findings settings run before).1.bind verdict? = some completion →
      ¬ Notice.IsDue settings completion) :
    ∀ event ∈ before.eventsSince after, kindOf event.call ≠ .publish := by
  rw [h.since, h.published.eq_nil hsilent, List.append_nil]
  exact h.quiet

theorem once (h : Course settings run before after asked told) :
    (before.eventsSince after).countP Event.isPublished ≤ 1 := by
  rw [h.since, List.countP_append, Notice.countP_isPublished_eq_zero h.quiet, Nat.zero_add]
  exact h.published.once

theorem messages (h : Course settings run before after asked told) :
    ∀ event ∈ before.eventsSince after, kindOf event.call = .publish →
      ∃ arn, settings.monitoringTopic = some arn ∧
        (event.call = .publish arn (Notice.wording settings.run "High" "Error" "Failed") ∨
          event.call = .publish arn
            (Notice.wording settings.run "Informational" "Information"
              "Completed successfully")) := by
  rw [h.since]
  refine List.forall_mem_append.2 ⟨fun event hevent hkind => ?_, fun event hevent _ => ?_⟩
  · exact absurd hkind (h.quiet event hevent)
  · exact h.published.messages event hevent

theorem aloof {failure : Failure} (h : Course settings (.error failure) before after asked told) :
    after.table = before.table ∧
      ∀ event ∈ before.eventsSince after, kindOf event.call = .publish := by
  obtain rfl : asked = [] := by simpa [World.Adds, findings] using h.surveyed
  rw [h.since]
  exact ⟨h.table, h.published.calls⟩

theorem failed (h : Course settings run before after asked told) {arn : String}
    (hattempted : Notice.Attempted arn (Notice.wording settings.run "High" "Error" "Failed")
      (before.eventsSince after)) :
    Unsuccessful settings run (before.eventsSince after) after.table := by
  rw [h.attempted_iff, ← Notice.text_unsuccessful] at hattempted
  rw [h.unsuccessful_iff]
  exact unsuccessful_of_verdict h.surveyed (h.published.verdict_of_attempted nofun hattempted)

theorem told_of_unsuccessful (h : Course settings run before after asked told)
    {found : Except Failure (Option (List StatusRecord))}
    (hfound : (findings settings run before).1 = some found) {arn : String}
    (hnamed : settings.monitoringTopic = some arn)
    (hvisible : ∃ c ∈ arn.toList, Text.isBlank c = false)
    (hloud : settings.run.exportDate ≠ "NIFI_HEARTBEAT")
    (hunsuccessful : Unsuccessful settings run (before.eventsSince after) after.table) :
    Notice.Attempted arn (Notice.wording settings.run "High" "Error" "Failed")
      (before.eventsSince after) := by
  rw [h.unsuccessful_iff] at hunsuccessful
  rw [h.attempted_iff, ← Notice.text_unsuccessful]
  exact h.published.attempted
    (verdict_of_unsuccessful h.surveyed h.explores hfound hunsuccessful)
    (Notice.isDue_of_named hnamed hvisible hloud nofun) hnamed

theorem successful (h : Course settings run before after asked told) {arn : String}
    (hattempted : Notice.Attempted arn
      (Notice.wording settings.run "Informational" "Information" "Completed successfully")
      (before.eventsSince after)) :
    Queried settings (before.eventsSince after) ∧
      after.table.records settings.run.correlationId ≠ [] ∧
      ∀ record ∈ after.table.records settings.run.correlationId,
        record.status ∈ [.sent, .received, .success] := by
  rw [h.attempted_iff, ← Notice.text_successful] at hattempted
  rw [h.queried_iff, h.table]
  exact queried_of_verdict h.surveyed (h.published.verdict_of_attempted nofun hattempted)

/-- What a survey has found can be read from all the calls at the end of a run. -/
theorem surveyed_since {summary : Summary} (h : Course settings (.ok summary) before after asked told)
    {found : Except Failure (Option (List StatusRecord))}
    (hfound : (findings settings (.ok summary) before).1 = some found) :
    Surveyed settings (before.eventsSince after) found := by
  obtain ⟨hsurveyed, -⟩ := findings_surveyed settings _ before rfl h.surveyed hfound
  rw [h.since]
  exact hsurveyed.append h.published.calls

/-- A run that only posts the indicator publishes nothing if that does not fail. -/
theorem quiet_of_posted {summary : Summary}
    (h : Course settings (.ok summary) before after asked told)
    (hindicator : settings.handling.indicatorOnly)
    (hcalm : ∀ failure, ¬ Fails settings (before.eventsSince after) failure) :
    ∀ event ∈ before.eventsSince after, kindOf event.call ≠ .publish := by
  simp only [h.fails_iff] at hcalm
  have hnone := verdict_eq_none h.surveyed rfl hindicator hcalm
  refine h.quiet_of_not_isDue fun completion hverdict => ?_
  rw [hnone] at hverdict
  cases hverdict

end Course

/-- The end of a run reports what has become of it, whatever the collaborators hold and whichever of
    their calls fail. -/
theorem afterRun_reports (settings : Settings) (run : Except Failure Summary) (before : World) :
    Reports settings run before (World.run (afterRun settings run) before).1
      (World.run (afterRun settings run) before).2 := by
  obtain ⟨asked, told, hcourse⟩ := exists_course settings run before
  refine ⟨?ends, ?own, ?result, ?unmoved, ?aloof, ?asked, hcourse.once, hcourse.messages,
    ?suppressed, ?failed, ?told, ?successful, ?forced⟩
  case ends =>
    intro hstatus hindicator hnotification
    exact (afterRun_completes settings run hstatus hindicator hnotification).isSome_run before
  case own =>
    rintro failure closing rfl -
    rfl
  case result =>
    rintro summary closing rfl hclosing
    obtain ⟨found, hfound, hresult⟩ := result_afterRun settings _ before hclosing
    rw [hresult]
    cases hcourse.surveyed_since hfound with
    | failed hfails => exact .inl ⟨_, hfails, rfl⟩
    | posted _ hsettled => exact .inr ⟨hsettled.not_fails, rfl⟩
    | given _ _ hsettled => exact .inr ⟨hsettled.not_fails, rfl⟩
  case unmoved =>
    intro faults other closing hother hclosing
    obtain ⟨found, hfound, hresult⟩ := result_afterRun settings run before hclosing
    obtain ⟨found', hfound', hresult'⟩ := result_afterRun settings run _ hother
    rw [findings_replanned, hfound] at hfound'
    cases hfound'
    exact hresult'.trans hresult.symm
  case aloof =>
    rintro failure rfl
    exact hcourse.aloof
  case asked =>
    rintro summary rfl hindicator hreached
    obtain ⟨found, hfound⟩ := hreached.exists_findings
    cases hcourse.surveyed_since hfound with
    | failed hfails => exact .inl ⟨_, hfails⟩
    | posted hforced => cases hforced.symm.trans hindicator
    | given _ _ _ hqueried => exact .inr hqueried
  case suppressed =>
    intro hsuppressed
    exact hcourse.quiet_of_not_isDue fun completion _ =>
      Notice.not_isDue_of_suppressed hsuppressed completion
  case failed => exact fun _ hattempted => hcourse.failed hattempted
  case told =>
    intro arn hnamed hvisible hloud hreached hunsuccessful
    obtain ⟨found, hfound⟩ := hreached.exists_findings
    exact hcourse.told_of_unsuccessful hfound hnamed hvisible hloud hunsuccessful
  case successful => exact fun _ hattempted => hcourse.successful hattempted
  case forced =>
    intro hindicator
    refine ⟨?_, ?_⟩
    · rw [hcourse.since]
      refine List.forall_mem_append.2 ⟨fun event hevent => ?_, fun event hevent => ?_⟩
      · exact .inl ((hcourse.explores event hevent).kindOf_eq hindicator)
      · exact .inr (hcourse.published.calls event hevent)
    · rintro summary rfl
      refine ⟨hcourse.quiet_of_posted hindicator, fun hreached hheaders => ?_⟩
      obtain ⟨found, hfound⟩ := hreached.exists_findings
      cases hcourse.surveyed_since hfound with
      | failed hfails => exact .inl ⟨_, hfails⟩
      | posted _ _ hposted => exact .inr (hposted hheaders)
      | given _ hother => cases hother.symm.trans hindicator

/-- Nothing has been exported, and the ingestion side refuses to hear of that. -/
def indicatorRefused : World :=
  { Sample.world with table := [(("id", "db.core.thing"), ⟨.exported, none, none⟩)] }.plan .deliver
    [some ⟨.delivery, .reported "refused"⟩]

theorem afterRun_reports_indicatorRefused :
    let settings := { Sample.settings with monitoringTopic := some "arn:monitoring" }
    let ended := World.run (afterRun settings (.ok (.start 0))) indicatorRefused
    (∃ event ∈ indicatorRefused.eventsSince ended.2, event.call = .publish "arn:monitoring"
      ("\x7b\"severity\":\"High\",\"notification_type\":\"Error\"," ++
        "\"slack_username\":\"Crown Export Poller\"," ++
        "\"title_text\":\"Full - All files sent - Failed\",\"custom_elements\":[" ++
        "\x7b\"key\":\"Export date\",\"value\":\"2020-01-01\"\x7d," ++
        "\x7b\"key\":\"Correlation Id\",\"value\":\"id\"\x7d]\x7d")) ∧
      ∃ closing failure, ended.1 = some closing ∧ failure.kind = .successIndicator ∧
        Closing.result (.ok (.start 0)) closing = .error failure := by
  intro settings ended
  have hlast : (lastOf [.deliver] (indicatorRefused.eventsSince ended.2)).map Event.fault =
      some (some ⟨.delivery, .reported "refused"⟩) := by decide +kernel
  obtain ⟨⟨call, fault⟩, hcall, rfl⟩ := Option.map_eq_some_iff.1 hlast
  obtain ⟨headers, hheaders⟩ :
      ∃ headers, Indicator.headers? settings.run.topicName = some headers :=
    Option.isSome_iff_exists.1 (by decide +kernel)
  have hfails : Fails settings (indicatorRefused.eventsSince ended.2) _ := .indicator hheaders hcall
  obtain ⟨closing, hclosing⟩ : ∃ closing, ended.1 = some closing :=
    Option.isSome_iff_exists.1 (by decide +kernel)
  have hreports := afterRun_reports settings (.ok (.start 0)) indicatorRefused
  constructor
  · have htold := hreports.told "arn:monitoring" rfl ⟨'a', by decide, by decide⟩ (by decide)
      (.inr (.inl (Option.isSome_iff_exists.2 ⟨closing, hclosing⟩))) (.inr (.inl ⟨_, hfails⟩))
    have hwording : Notice.wording settings.run "High" "Error" "Failed" =
        "\x7b\"severity\":\"High\",\"notification_type\":\"Error\"," ++
          "\"slack_username\":\"Crown Export Poller\"," ++
          "\"title_text\":\"Full - All files sent - Failed\",\"custom_elements\":[" ++
          "\x7b\"key\":\"Export date\",\"value\":\"2020-01-01\"\x7d," ++
          "\x7b\"key\":\"Correlation Id\",\"value\":\"id\"\x7d]\x7d" := by decide +kernel
    rwa [hwording] at htold
  · obtain ⟨failure, hfailure, hresult⟩ | ⟨hcalm, -⟩ := hreports.result _ _ rfl hclosing
    · refine ⟨closing, failure, hclosing, ?_, hresult⟩
      have hupdate : (lastOf [.readRow, .transition] (indicatorRefused.eventsSince ended.2)).map
          Event.fault = some none := by decide +kernel
      have hquery : lastOf [.rows] (indicatorRefused.eventsSince ended.2) = none :=
        Option.isNone_iff_eq_none.1 (by decide +kernel)
      cases hfailure with
      | indicator => rfl
      | update hother =>
        rw [hother] at hupdate
        cases hupdate
      | query hother => cases hquery.symm.trans hother
    · exact absurd hfails (hcalm _)

end Closing

end Courier

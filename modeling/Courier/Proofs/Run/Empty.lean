import Courier.Proofs.Run.Restart

/-!
Runs over a collection that has nothing to send. Nobody but the run in progress moves its row on,
and the success indicator is posted only by a run that has found the row due. So a collection whose
row has been moved on without an announcement is never announced.
-/

namespace Courier

open Memory Program

/-- The run is about the same collection, and moves its row on at its end. -/
structure Settings.Repeats (base settings : Settings) : Prop where
  correlationId : settings.run.correlationId = base.run.correlationId
  topicName : settings.run.topicName = base.run.topicName
  folder : settings.storage.folder = base.storage.folder
  indicatorOnly : settings.handling.indicatorOnly = false

/-- A collection that has been exported and has nothing to send, and that the success indicator has
    a name for. -/
structure Settings.OpensEmpty (base : Settings) (world : World) : Prop where
  row : ∃ row, find? world.table base.own = some row ∧ row.status = .exported ∧
    row.exported.getD 0 = 0 ∧ row.sent.getD 0 = 0
  todo : base.todo world = []
  headers : (Indicator.headers? base.run.topicName).isSome
  undisturbed : world.interloper = none

/-- The ingestion side has accepted the success indicator of the collection. -/
def Announces (base : Settings) (event : Event) : Prop :=
  event.Accepted ∧ ∃ headers run, Indicator.headers? base.run.topicName = some headers ∧
    event.call = .deliver (headers.pairs run) [.ok Indicator.body]

/-- The collection has been announced since `before`. -/
def Announced (base : Settings) (before after : World) : Prop :=
  ∃ event ∈ before.eventsSince after, Announces base event

namespace Closing

/-- What the end of a run knows of the row. -/
inductive Sight where
  | unread
  /-- The row was due when it was read. -/
  | due
  | settled
  deriving DecidableEq

/-- The calls at the end of a run. Nothing is delivered unless the row was due. -/
def rule (settings : Settings) : Rule Call.Answer Sight where
  allows sight call := Asks settings call ∧ (kindOf call = .deliver → sight = .due)
  after
    | .unread, ⟨.readRow _ _, .ok record⟩ =>
      if Tracker.isDue (record.getD .absent) then .due else .settled
    | sight, _ => sight

section Parts

variable {settings : Settings} {sight : Sight} {α β : Type}

theorem rule_after_of_ne {call : Call} (h : kindOf call ≠ .readRow) (answer : call.Answer) :
    (rule settings).after sight ⟨call, answer⟩ = sight := by
  cases call with
  | readRow => exact absurd rfl h
  | _ => cases sight <;> rfl

/-- The errand makes its calls without another look at the row. -/
def Stays (settings : Settings) (sight : Sight) (errand : Errand α) : Prop :=
  Follows (rule settings) (fun place _ => place = sight) errand.run sight

theorem Stays.andThen {errand : Errand α} {f : α → Errand β} (h : Stays settings sight errand)
    (hf : ∀ value, Stays settings sight (f value)) : Stays settings sight (errand >>= f) := by
  refine Follows.andThen (fun place _ => place = sight) h ?_ fun _ _ hplace => hplace
  rintro _ value rfl
  exact hf value

theorem Stays.orElse {errand : Errand α} {handle : Failure → Errand α}
    (h : Stays settings sight errand) (hhandle : ∀ failure, Stays settings sight (handle failure)) :
    Stays settings sight (tryCatch errand handle) := by
  refine Follows.orElse (fun place _ => place = sight) h (fun _ _ hplace => hplace) ?_
  rintro _ failure rfl
  exact hhandle failure

theorem stays_pure (value : α) : Stays settings sight (pure value) := .done rfl

theorem stays_throw (failure : Failure) : Stays settings sight (throw failure : Errand α) :=
  .done rfl

theorem stays_retry {call : Call} (hasks : Asks settings call)
    (hdeliver : kindOf call = .deliver → sight = .due) (hread : kindOf call ≠ .readRow)
    (policy : RetryPolicy) : Stays settings sight (retry policy call.errand) := by
  refine Follows.retryIf (· = sight) rfl fun place hplace => ?_
  rw [hplace]
  exact Call.follows_errand call ⟨hasks, hdeliver⟩ fun answer =>
    ⟨rule_after_of_ne hread answer, fun _ _ _ => rule_after_of_ne hread answer⟩

theorem publish_stays (completion : Completion) :
    Stays settings sight (Notice.publish settings completion) := by
  unfold Notice.publish
  split
  · exact stays_pure ()
  · split
    · exact stays_pure ()
    · refine Stays.orElse ?_ fun _ => stays_pure ()
      exact (stays_retry (.publish _ _) nofun nofun _).andThen fun _ => stays_pure ()

theorem completion_stays : Stays settings sight (Tracker.ofSettings settings).completion :=
  (stays_retry .rows nofun nofun _).andThen fun _ => stays_pure _

/-- Once the row has been found due, whatever is done at the end of a run may be done. -/
theorem follows_of_makes {program : Program Call.Answer α} (h : Makes (Asks settings) program) :
    Follows (rule settings) (fun place _ => place = .due) program .due := by
  unfold Makes at h
  generalize () = place at h
  induction h with
  | done => exact .done rfl
  | ask hallowed _ ih => exact .ask ⟨hallowed, fun _ => rfl⟩ ih
  | wait _ ih => exact .wait ih
  | halt => exact .halt

/-- A worker that has not found the row due knows of nothing to announce. -/
def Ends (sight : Sight) (result : Except Failure CollectionState) : Prop :=
  sight = .due ∨ (sight = .unread ∧ ∃ failure, result = .error failure) ∨
    sight = .settled ∧ result = .ok .inProgress

theorem current_follows :
    Follows (rule settings) (fun place result =>
        (place = .unread ∧ ∃ failure, result = .error failure) ∨
          ∃ record, result = .ok record ∧ place = if Tracker.isDue record then .due else .settled)
      (Tracker.ofSettings settings).current.run .unread := by
  refine Follows.andThen (fun place result => (place = .unread ∧ ∃ failure, result = .error failure)
    ∨ ∃ record, result = .ok record ∧
      place = if Tracker.isDue (record.getD .absent) then .due else .settled) ?_ ?_ ?_
  · refine Call.follows_errand (.readRow _ _) ⟨.advance .readRow, nofun⟩ fun answer => ?_
    cases answer with
    | error failure => exact .inl ⟨rfl, failure, rfl⟩
    | ok record => exact .inr ⟨record, rfl, rfl⟩
  · rintro _ record (⟨-, failure, hok⟩ | ⟨_, ⟨⟩, rfl⟩)
    · cases hok
    · exact .done (.inr ⟨_, rfl, rfl⟩)
  · rintro _ failure (hunread | ⟨record, hok, -⟩)
    · exact .inl ⟨hunread.1, failure, rfl⟩
    · cases hok

theorem tryAdvance_follows {place : Sight} (hplace : place ≠ .settled) :
    Follows (rule settings) Ends (Tracker.ofSettings settings).tryAdvance.run place := by
  cases place with
  | settled => exact absurd rfl hplace
  | due =>
    have hmakes := (Tracker.ofSettings settings).tryAdvance_makes.mono fun _ => Asks.advance
    exact (follows_of_makes hmakes).mono fun _ _ => .inl
  | unread =>
    refine Follows.andThen _ current_follows ?_ ?_
    · rintro _ record (⟨-, failure, hok⟩ | ⟨_, ⟨⟩, rfl⟩)
      · cases hok
      · by_cases hdue : Tracker.isDue record
        · simp only [hdue, if_true]
          refine (follows_of_makes (Makes.andThen (Call.makes_errand
            (.advance (.transition record hdue))) fun applied => ?_)).mono fun _ _ => .inl
          cases applied with
          | true => exact .done _
          | false =>
            have hcurrent := (Tracker.ofSettings settings).current_makes.mono fun _ => Asks.advance
            exact hcurrent.andThen fun _ => .done _
        · simp only [hdue]
          exact .done (.inr (.inr ⟨rfl, rfl⟩))
    · rintro _ failure (hunread | ⟨record, hok, -⟩)
      · exact .inr (.inl ⟨hunread.1, failure, rfl⟩)
      · cases hok

theorem advance_follows :
    Follows (rule settings) Ends (Tracker.ofSettings settings).advance.run .unread := by
  refine Follows.retryIf (· ≠ .settled) nofun fun place hplace => ?_
  refine (tryAdvance_follows hplace).mono fun place result hends => ⟨hends, ?_⟩
  rintro failure rfl - rfl
  obtain hdue | ⟨hunread, -⟩ | ⟨-, hok⟩ := hends
  · cases hdue
  · cases hunread
  · cases hok

theorem complete_follows (hindicator : settings.handling.indicatorOnly = false) :
    Follows (rule settings) (fun _ _ => True) (complete settings).run .unread := by
  have hrest (sight : Sight) : Stays settings sight (do
      let completion ← (Tracker.ofSettings settings).completion
      Notice.publish settings completion : Errand Unit) :=
    completion_stays.andThen fun completion => publish_stays completion
  have hstays {sight : Sight} {errand : Errand Unit} (h : Stays settings sight errand) :
      Follows (rule settings) (fun _ _ => True) errand.run sight := h.mono fun _ _ _ => trivial
  unfold complete
  simp only [hindicator, Bool.false_eq_true, if_false]
  refine Follows.andThen Ends advance_follows (fun sight state hends => ?_) fun _ _ _ => trivial
  by_cases hstate : state = .noFiles
  · simp only [hstate, if_true]
    subst hstate
    obtain rfl | ⟨-, failure, hok⟩ | ⟨-, hok⟩ := hends
    · have hpost : Stays settings .due (postIndicator settings) :=
        follows_of_makes (postIndicator_makes settings .deliver)
      exact hstays (hpost.andThen fun _ => hrest .due)
    · cases hok
    · cases hok
  · simp only [hstate, if_false]
    exact hstays (hrest sight)

/-- Whatever has become of a run, at its end it keeps to the rule. -/
theorem afterRun_follows (hindicator : settings.handling.indicatorOnly = false)
    (run : Except Failure Summary) :
    Follows (rule settings) (fun _ _ => True) (afterRun settings run).run .unread := by
  cases run with
  | error failure => exact (publish_stays .unsuccessful).mono fun _ _ _ => trivial
  | ok summary =>
    refine Follows.orElse _ (complete_follows hindicator) (fun _ _ _ => trivial) ?_
    intro sight failure _
    have hstays : Stays settings sight (do
        Notice.publish settings .unsuccessful
        throw failure : Errand Unit) :=
      (publish_stays .unsuccessful).andThen fun _ => stays_throw failure
    exact hstays.mono fun _ _ _ => trivial

end Parts

end Closing

/-- What holds of a collection without objects whatever has been asked: its row is as it was or has
    been received. If the announcement has been `missed`, the row has been received and nothing has
    been announced. -/
structure Vacant (base : Settings) (start : World) (missed : Prop) (world : World) : Prop where
  undisturbed : world.interloper = none
  objects : world.objects = start.objects
  row : ∃ row, find? world.table base.own = some row ∧
    (row.status = .exported ∨ row.status = .received) ∧ row.exported.getD 0 = 0 ∧
    row.sent.getD 0 = 0 ∧ (missed → row.status = .received)
  events : ∃ events : List Event, world.events = events.reverse ++ start.events ∧
    (missed → ∀ event ∈ events, ¬ Announces base event)

/-- What holds of a run over a collection without objects. If the announcement has been missed, the
    run does not find the row due. -/
def StageVacant (settings : Settings) (missed : Prop) : Stage → Prop
  | .listing program => ∃ place, Follows (listRule settings) ListEnds program place ∧
    ∀ keys, place = some keys → candidates keys = []
  | .working shift => shift.crew = [] ∧ shift.queue = []
  | .closing _ program => ∃ sight,
    Follows (Closing.rule settings) (fun _ _ => True) program sight ∧
      (missed → sight ≠ .due)
  | .ended _ => True

section Vacant

variable {base settings : Settings} {start world world' : World} {missed : Prop}

theorem Settings.OpensEmpty.vacant (h : base.OpensEmpty start) : Vacant base start False start where
  undisturbed := h.undisturbed
  objects := rfl
  row := by
    obtain ⟨row, hrow, hstatus, hexported, hsent⟩ := h.row
    exact ⟨row, hrow, .inl hstatus, hexported, hsent, False.elim⟩
  events := ⟨[], rfl, False.elim⟩

theorem Announces.kindOf_eq {event : Event} (h : Announces base event) :
    kindOf event.call = .deliver := by
  obtain ⟨-, headers, run, -, hcall⟩ := h
  rw [hcall]
  rfl

theorem Settings.Repeats.own_eq (h : base.Repeats settings) : settings.own = base.own := by
  rw [Settings.own, h.correlationId, h.topicName, Settings.own]

/-- A call that writes nothing is borne, a delivery only if the announcement has not been missed. -/
theorem Vacant.events_answer (h : Vacant base start missed world) (call : Call)
    (hdeliver : missed → kindOf call ≠ .deliver) :
    ∃ events : List Event, (world.answer call).2.events = events.reverse ++ start.events ∧
      (missed → ∀ event ∈ events, ¬ Announces base event) := by
  obtain ⟨events, hevents, hnever⟩ := h.events
  refine ⟨events ++ [⟨call, world.planned call⟩], by simp [hevents],
    fun hmissed event hevent => ?_⟩
  obtain hold | hnew := List.mem_append.1 hevent
  · exact hnever hmissed event hold
  · obtain rfl := List.mem_singleton.1 hnew
    exact fun hannounces => hdeliver hmissed hannounces.kindOf_eq

theorem Vacant.answer (h : Vacant base start missed world) (call : Call)
    (hwrites : (kindOf call).writes = false) (hdeliver : missed → kindOf call ≠ .deliver) :
    Vacant base start missed (world.answer call).2 where
  undisturbed := World.answer_interloper h.undisturbed
  objects := (World.answer_unwritten hwrites).1.trans h.objects
  row := by
    rw [(World.answer_unwritten hwrites).2]
    exact h.row
  events := h.events_answer call hdeliver

/-- A row without files goes nowhere but to being received. -/
theorem Vacant.answer_transition (h : Vacant base start missed world) (expected : StatusRecord) :
    Vacant base start missed (world.answer
      (.transition base.own.1 base.own.2 expected (Tracker.target expected).1)).2 where
  undisturbed := World.answer_interloper h.undisturbed
  objects := (World.answer_objects_of_ne (by nofun)).trans h.objects
  row := by
    obtain ⟨row, hrow, hstatus, hexported, hsent, hmissed⟩ := h.row
    obtain ⟨-, found, hfound, hagrees, htable⟩ | ⟨-, htable⟩ := world.answer_transition
      base.own.1 base.own.2 expected (Tracker.target expected).1 h.undisturbed
    · cases hrow.symm.trans hfound
      simp only [Row.agrees, Bool.and_eq_true, beq_iff_eq] at hagrees
      have htarget : (Tracker.target expected).1 = .received := by
        rw [Tracker.target, if_neg (by omega)]
      rw [htable, htarget]
      exact ⟨_, find?_insert_self _ _ _, .inr rfl, hexported, hsent, fun _ => rfl⟩
    · rw [htable]
      exact ⟨row, hrow, hstatus, hexported, hsent, hmissed⟩
  events := h.events_answer _ fun _ => nofun

/-- A row that has been received is not due. -/
theorem Vacant.not_due (h : Vacant base start missed world) (hmissed : missed)
    {record : Option StatusRecord}
    (hread : (world.answer (.readRow base.own.1 base.own.2)).1 = .ok record) :
    ¬ Tracker.isDue (record.getD .absent) := by
  obtain ⟨row, hrow, -, -, -, hreceived⟩ := h.row
  have hrecord := World.answer_readRow _ _ _ hread
  rw [show (base.own.1, base.own.2) = base.own from rfl, hrow] at hrecord
  rw [hrecord, Option.map_some, Option.getD_some, Tracker.isDue, Row.record, hreceived hmissed]
  simp

/-- The listing of a collection without objects tells no keys to send. -/
theorem Vacant.candidates_eq (h : Vacant base start missed world) (hrepeats : base.Repeats settings)
    (htodo : base.todo start = []) {keys : List String}
    (hkeys : (world.answer (.list settings.storage.folder)).1 = .ok keys) :
    candidates keys = [] := by
  rw [Settings.todo, World.keys, ← h.objects, ← World.keys, ← hrepeats.folder] at htodo
  rw [World.answer_list _ _ hkeys, htodo]

/-- A call at the end of a run keeps the collection as it should be, and the run at its rule. -/
theorem Vacant.closing (h : Vacant base start missed world) (hrepeats : base.Repeats settings)
    {call : Call} {sight : Closing.Sight} (hallowed : (Closing.rule settings).allows sight call)
    (hsight : missed → sight ≠ .due) :
    Vacant base start missed (world.answer call).2 ∧
      (missed → (Closing.rule settings).after sight ⟨call, (world.answer call).1⟩ ≠ .due) := by
  have hown := hrepeats.own_eq
  obtain ⟨hasks, hdeliver⟩ := hallowed
  have hquiet (hmissed : missed) : kindOf call ≠ .deliver := fun hkind =>
    hsight hmissed (hdeliver hkind)
  have hkeep (hread : kindOf call ≠ .readRow) (hmissed : missed) :
      (Closing.rule settings).after sight ⟨call, (world.answer call).1⟩ ≠ .due := by
    rw [Closing.rule_after_of_ne hread]
    exact hsight hmissed
  cases hasks with
  | deliver headers => exact ⟨h.answer _ rfl hquiet, hkeep nofun⟩
  | rows => exact ⟨h.answer _ rfl hquiet, hkeep nofun⟩
  | publish => exact ⟨h.answer _ rfl hquiet, hkeep nofun⟩
  | advance hadvance =>
    cases hadvance with
    | transition expected hdue =>
      have hmoved := h.answer_transition expected
      rw [← hown] at hmoved
      exact ⟨hmoved, hkeep nofun⟩
    | readRow =>
      refine ⟨h.answer _ rfl hquiet, fun hmissed => ?_⟩
      have hnot (record : Option StatusRecord)
          (hread : (world.answer (.readRow settings.own.1 settings.own.2)).1 = .ok record) :
          ¬ Tracker.isDue (record.getD .absent) := by
        rw [hown] at hread
        exact h.not_due hmissed hread
      change (Closing.rule settings).after sight
        ⟨.readRow settings.own.1 settings.own.2, (world.answer (.readRow _ _)).1⟩ ≠ .due
      cases sight with
      | due => exact absurd rfl (hsight hmissed)
      | settled => nofun
      | unread =>
        cases hread : (world.answer (.readRow settings.own.1 settings.own.2)).1 with
        | error failure => nofun
        | ok record =>
          simp only [Closing.rule, if_neg (hnot record hread)]
          nofun

/-- A call of a run keeps the collection as it should be, and the run with it. -/
theorem StageVacant.ask {key? : Option String} {call : Call} {stage stage' : Stage}
    (hvacant : Vacant base start missed world) (htodo : base.todo start = [])
    (hrepeats : base.Repeats settings) (h : StageVacant settings missed stage)
    (hstep : stage.Step settings (some ⟨key?, ⟨call, (world.answer call).1⟩⟩) stage') :
    Vacant base start missed (world.answer call).2 ∧ StageVacant settings missed stage' := by
  obtain ⟨program, rest, rfl, rfl, -, hturn⟩ | ⟨key, crew, crew', queue, tally, rfl, rfl, -,
    hmove⟩ | ⟨run, program, rest, rfl, rfl, -, hturn⟩ := hstep.ask_cases
  · obtain ⟨place, hfollows, -⟩ := h
    obtain ⟨rfl, hrest⟩ := hfollows.step_ask hturn
    refine ⟨hvacant.answer _ rfl fun _ => nofun, _, hrest,
      fun keys hkeys => hvacant.candidates_eq hrepeats htodo ?_⟩
    generalize (world.answer (.list settings.storage.folder)).1 = result at hkeys
    cases result with
    | error failure => cases hkeys
    | ok listed => exact congrArg Except.ok (Option.some.inj hkeys)
  · obtain ⟨rfl, -⟩ := h
    obtain ⟨program, rest, hmember, -⟩ := hmove.exists_step
    cases hmember
  · obtain ⟨sight, hfollows, hsight⟩ := h
    obtain ⟨hallowed, hrest⟩ := hfollows.step_ask hturn
    obtain ⟨hbooked, hsight'⟩ := hvacant.closing hrepeats hallowed hsight
    exact ⟨hbooked, _, hrest, hsight'⟩

/-- Without a call a run goes on as it should. -/
theorem StageVacant.step {stage stage' : Stage} (hrepeats : base.Repeats settings)
    (h : StageVacant settings missed stage) (hstep : stage.Step settings none stage') :
    StageVacant settings missed stage' := by
  obtain ⟨program, rest, rfl, rfl, hturn⟩ | ⟨keys, rfl, rfl⟩ |
    ⟨key, crew, crew', queue, tally, rfl, rfl, hmove⟩ |
    ⟨front, back, queue, key, outcome, tally, tally', rfl, rfl⟩ | ⟨run, rfl⟩ |
    ⟨run, program, rest, rfl, rfl, hturn⟩ | ⟨result, rfl⟩ := hstep.silent_cases
  · obtain ⟨place, hfollows, hplace⟩ := h
    exact ⟨place, hfollows.step_wait hturn, hplace⟩
  · obtain ⟨place, hfollows, hplace⟩ := h
    cases hfollows with
    | done hends =>
      rw [hplace keys (hends keys rfl)]
      exact ⟨List.take_nil, List.drop_nil⟩
  · obtain ⟨rfl, -⟩ := h
    obtain ⟨program, rest, hmember, -⟩ := hmove.exists_step
    cases hmember
  · obtain ⟨hcrew, -⟩ := h
    exact absurd hcrew (by simp)
  · exact ⟨.unread, Closing.afterRun_follows hrepeats.indicatorOnly run, fun _ => nofun⟩
  · obtain ⟨sight, hfollows, hsight⟩ := h
    exact ⟨sight, hfollows.step_wait hturn, hsight⟩
  · trivial

end Vacant

namespace History

variable {base : Settings} {start : World} {missed : Prop} {history next : History}

/-- What holds in every state of a history over a collection without objects. -/
structure SoundEmpty (base : Settings) (start : World) (missed : Prop) (history : History) :
    Prop where
  vacant : Vacant base start missed history.world
  stage : ∀ settings stage, history.current = some (settings, stage) →
    base.Repeats settings ∧ StageVacant settings missed stage

theorem SoundEmpty.step {label : Option Asked} (htodo : base.todo start = [])
    (h : SoundEmpty base start missed history) (hstep : Step base.Repeats history label next) :
    SoundEmpty base start missed next := by
  obtain ⟨⟨hundisturbed, hobjects, hrow, hevents⟩, hstage⟩ := h
  have hvacant : Vacant base start missed history.world := ⟨hundisturbed, hobjects, hrow, hevents⟩
  cases hstep with
  | begin world settings hadmits =>
    refine ⟨hvacant, ?_⟩
    rintro _ _ ⟨⟩
    exact ⟨hadmits, none, list_follows settings, nofun⟩
  | ask key? call hstep =>
    obtain ⟨hrepeats, hsound⟩ := hstage _ _ rfl
    obtain ⟨hvacant', hsound'⟩ := hsound.ask hvacant htodo hrepeats hstep
    refine ⟨hvacant', ?_⟩
    rintro _ _ ⟨⟩
    exact ⟨hrepeats, hsound'⟩
  | silent hstep =>
    obtain ⟨hrepeats, hsound⟩ := hstage _ _ rfl
    refine ⟨hvacant, ?_⟩
    rintro _ _ ⟨⟩
    exact ⟨hrepeats, hsound.step hrepeats hstep⟩
  | pass | disrupt => exact ⟨⟨hundisturbed, hobjects, hrow, hevents⟩, hstage⟩
  | finish | die => exact ⟨hvacant, fun _ _ h => nomatch h⟩

theorem SoundEmpty.path {labels : List (Option Asked)} (htodo : base.todo start = [])
    (h : SoundEmpty base start missed history)
    (hpath : Path (Step base.Repeats) history labels next) : SoundEmpty base start missed next := by
  induction hpath with
  | nil => exact h
  | cons hstep _ ih => exact ih (h.step htodo hstep)

theorem SoundEmpty.of_path {labels : List (Option Asked)} (hopens : base.OpensEmpty start)
    (hpath : Path (Step base.Repeats) ⟨start, none⟩ labels next) :
    SoundEmpty base start False next := by
  have hstart : SoundEmpty base start False ⟨start, none⟩ := ⟨hopens.vacant, fun _ _ h => nomatch h⟩
  exact hstart.path hopens.todo hpath

end History

end Courier

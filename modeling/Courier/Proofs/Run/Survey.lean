import Courier.Proofs.Memory.Errand
import Courier.Proofs.Run.Closing

/-!
What a run finds out at its end, read from the calls it has made. It goes through up to three stages
– it moves its row on, posts the success indicator and asks for the rows of its export – and each
stage calls again until an attempt has succeeded or none is left. So a stage has failed just if its
last call has, and the failure of a stage is the end of the survey.
-/

namespace Courier

open Memory Program

/-- The call with the failure it has met, as the collaborators remember it. -/
def Turn.event : Turn Call.Answer → Event
  | ⟨call, .ok _⟩ => ⟨call, none⟩
  | ⟨call, .error failure⟩ => ⟨call, some failure⟩

namespace Closing

/-- The last of the calls of some kinds. -/
def lastOf (kinds : List CallKind) (events : List Event) : Option Event :=
  (events.filter fun event => kindOf event.call ∈ kinds).getLast?

section LastOf

variable {kinds : List CallKind} {events : List Event} {event : Event}

theorem lastOf_concat_self (h : kindOf event.call ∈ kinds) :
    lastOf kinds (events ++ [event]) = some event := by
  simp [lastOf, List.filter_append, h]

theorem lastOf_concat_of_notMem (h : kindOf event.call ∉ kinds) :
    lastOf kinds (events ++ [event]) = lastOf kinds events := by
  simp [lastOf, List.filter_append, h]

theorem lastOf_append {others : List Event} (h : ∀ other ∈ others, kindOf other.call ∉ kinds) :
    lastOf kinds (events ++ others) = lastOf kinds events := by
  have hnone : others.filter (fun event => kindOf event.call ∈ kinds) = [] :=
    List.filter_eq_nil_iff.2 fun other hother => by simpa using h other hother
  rw [lastOf, List.filter_append, hnone, List.append_nil, lastOf]

/-- What is published later does not change which other call is the last one. -/
theorem lastOf_append_published {published : List Event}
    (h : ∀ event ∈ published, kindOf event.call = .publish) (hkinds : .publish ∉ kinds) :
    lastOf kinds (events ++ published) = lastOf kinds events :=
  lastOf_append fun event hevent => h event hevent ▸ hkinds

theorem lastOf_eq_none (h : ∀ event ∈ events, kindOf event.call ∉ kinds) :
    lastOf kinds events = none := by
  rw [← List.nil_append events, lastOf_append h]
  rfl

end LastOf

/-- What has failed for good at the end of a run, to its last attempt: the posting of the indicator,
    the status update or the query for the rows. -/
inductive Fails (settings : Settings) (events : List Event) : Failure → Prop
  | indicator {headers : FileHeaders} {call : Call} {failure : Failure}
    (hheaders : Indicator.headers? settings.run.topicName = some headers)
    (hlast : lastOf [.deliver] events = some ⟨call, some failure⟩) :
    Fails settings events ⟨.successIndicator, .indicatorNotPosted headers.filename failure.message⟩
  | update {call : Call} {failure : Failure}
    (hlast : lastOf [.readRow, .transition] events = some ⟨call, some failure⟩) :
    Fails settings events failure
  | query {call : Call} {failure : Failure}
    (hlast : lastOf [.rows] events = some ⟨call, some failure⟩) : Fails settings events failure

/-- The rows of the export have been asked for, and given. -/
def Queried (settings : Settings) (events : List Event) : Prop :=
  lastOf [.rows] events = some ⟨.rows settings.run.correlationId, none⟩

/-- The indicator has been posted. -/
def Posted (events : List Event) : Prop := ∃ call, lastOf [.deliver] events = some ⟨call, none⟩

/-! What is published later does not change what has come of the stages. -/

section Append

variable (settings : Settings) {events published : List Event}
  (h : ∀ event ∈ published, kindOf event.call = .publish)

include h

theorem fails_append_iff {failure : Failure} :
    Fails settings (events ++ published) failure ↔ Fails settings events failure := by
  have hdeliver : lastOf [.deliver] (events ++ published) = lastOf [.deliver] events :=
    lastOf_append_published h (by decide)
  have hupdate : lastOf [.readRow, .transition] (events ++ published) =
      lastOf [.readRow, .transition] events :=
    lastOf_append_published h (by decide)
  have hrows : lastOf [.rows] (events ++ published) = lastOf [.rows] events :=
    lastOf_append_published h (by decide)
  constructor
  · rintro (⟨hheaders, hfailed⟩ | hfailed | hfailed)
    · exact .indicator hheaders (hdeliver ▸ hfailed)
    · exact .update (hupdate ▸ hfailed)
    · exact .query (hrows ▸ hfailed)
  · rintro (⟨hheaders, hfailed⟩ | hfailed | hfailed)
    · exact .indicator hheaders (hdeliver.trans hfailed)
    · exact .update (hupdate.trans hfailed)
    · exact .query (hrows.trans hfailed)

theorem queried_append_iff :
    Queried settings (events ++ published) ↔ Queried settings events := by
  rw [Queried, lastOf_append_published h (by decide), Queried]

theorem posted_append_iff : Posted (events ++ published) ↔ Posted events := by
  rw [Posted, lastOf_append_published h (by decide), Posted]

end Append

/-- The kinds of the calls of each stage. -/
def stages : List (List CallKind) := [[.deliver], [.readRow, .transition], [.rows]]

/-- A stage has not failed. -/
def Calm (kinds : List CallKind) (events : List Event) : Prop :=
  ∀ event, lastOf kinds events = some event → event.fault = none

/-- No stage has failed. -/
def Settled (events : List Event) : Prop := ∀ kinds ∈ stages, Calm kinds events

theorem Settled.not_fails {settings : Settings} {events : List Event} (h : Settled events)
    (failure : Failure) : ¬ Fails settings events failure := by
  rintro (⟨-, hlast⟩ | hlast | hlast)
  · cases h _ (by decide) _ hlast
  · cases h _ (by decide) _ hlast
  · cases h _ (by decide) _ hlast

theorem Settled.append {events published : List Event} (h : Settled events)
    (hpublished : ∀ event ∈ published, kindOf event.call = .publish) :
    Settled (events ++ published) := by
  have hpublish : ∀ kinds ∈ stages, CallKind.publish ∉ kinds := by decide
  intro kinds hkinds event hlast
  rw [lastOf_append_published hpublished (hpublish kinds hkinds)] at hlast
  exact h kinds hkinds event hlast

theorem Settled.posted {events : List Event} (h : Settled events)
    (hlast : (lastOf [.deliver] events).isSome) : Posted events := by
  obtain ⟨⟨call, fault⟩, hlast⟩ := Option.isSome_iff_exists.1 hlast
  obtain rfl : fault = none := h _ List.mem_cons_self _ hlast
  exact ⟨call, hlast⟩

variable (settings : Settings)

/-- The calls of the survey. -/
inductive Explores : Call → Prop
  | deliver (headers : List (String × String)) : Explores (.deliver headers [.ok Indicator.body])
  | advance {call : Call} (hindicator : settings.handling.indicatorOnly = false)
    (hcall : (Tracker.ofSettings settings).Asks .advance call) : Explores call
  | rows (hindicator : settings.handling.indicatorOnly = false) :
    Explores (.rows settings.run.correlationId)

namespace Explores

variable {settings : Settings} {call : Call}

theorem kindOf_ne (h : Explores settings call) : kindOf call ≠ .publish := by
  cases h with
  | deliver => nofun
  | advance _ hcall => cases hcall <;> nofun
  | rows => nofun

theorem kindOf_eq (h : Explores settings call) (hindicator : settings.handling.indicatorOnly) :
    kindOf call = .deliver := by
  cases h with
  | deliver => rfl
  | advance hother => cases hother.symm.trans hindicator
  | rows hother => cases hother.symm.trans hindicator

theorem correlationId_eq {correlationId : String} (h : Explores settings (.rows correlationId)) :
    correlationId = settings.run.correlationId := by
  cases h with
  | advance _ hcall => cases hcall
  | rows => rfl

/-- A call of the survey fails only as it has been planned. -/
theorem event_answer (h : Explores settings call) (world : World) :
    Turn.event ⟨call, (world.answer call).1⟩ = ⟨call, world.planned call⟩ := by
  obtain ⟨failure, hplanned, hanswer⟩ | ⟨hplanned, hanswer⟩ := world.answer_cases call
  · rw [hanswer, hplanned]
    rfl
  · rw [hanswer, hplanned]
    cases h with
    | deliver => rfl
    | rows => rfl
    | advance _ hcall =>
      cases hcall with
      | readRow => rfl
      | transition expected =>
        simp only [World.perform]
        split
        · rfl
        · split <;> rfl

end Explores

/-- The calls so far, and the rows the last of them has given. -/
structure Heard where
  events : List Event
  rows : Option (List StatusRecord)

/-- Remembers all calls, and the rows a call has given until the next call. -/
def heardRule : Rule Call.Answer Heard where
  allows _ call := Explores settings call
  after place turn :=
    ⟨place.events ++ [turn.event],
      match turn with
      | ⟨.rows _, .ok records⟩ => some records
      | _ => none⟩

/-- No stage but one has failed. -/
def Within (kinds : List CallKind) (place : Heard) : Prop :=
  ∀ other ∈ stages, other ≠ kinds → Calm other place.events

/-- Where a stage leads: it has had a call and no stage has failed, or its last call has failed. -/
def StageEnds {α : Type} (kinds : List CallKind) (place : Heard) : Except Failure α → Prop
  | .ok _ => Settled place.events ∧ (lastOf kinds place.events).isSome
  | .error failure =>
    Within kinds place ∧ ∃ call, lastOf kinds place.events = some ⟨call, some failure⟩

/-- An errand of one stage. -/
def IsStage {α : Type} (kinds : List CallKind) (errand : Errand α) : Prop :=
  ∀ place, Within kinds place → Follows (heardRule settings) (StageEnds kinds) errand.run place

section Stage

variable {settings : Settings} {kinds : List CallKind}

theorem Settled.within {place : Heard} (h : Settled place.events) : Within kinds place :=
  fun other hother _ => h other hother

theorem stageEnds_answer {call : Call} (hkinds : kinds ∈ stages) (hkind : kindOf call ∈ kinds)
    {place : Heard} (hplace : Within kinds place) (answer : call.Answer) :
    StageEnds kinds ((heardRule settings).after place ⟨call, answer⟩) answer := by
  have hdisjoint : ∀ kinds ∈ stages, ∀ other ∈ stages, other ≠ kinds →
      ∀ kind ∈ kinds, kind ∉ other := by decide
  have hown : kindOf (Turn.event ⟨call, answer⟩).call ∈ kinds := by
    cases answer <;> exact hkind
  have hothers : Within kinds ((heardRule settings).after place ⟨call, answer⟩) := by
    intro other hother hne event hlast
    refine hplace other hother hne event ?_
    rwa [← lastOf_concat_of_notMem (hdisjoint kinds hkinds other hother hne _ hown)]
  have hlast : lastOf kinds (place.events ++ [Turn.event ⟨call, answer⟩]) =
      some (Turn.event ⟨call, answer⟩) := lastOf_concat_self hown
  cases answer with
  | error failure => exact ⟨hothers, call, hlast⟩
  | ok value =>
    refine ⟨fun other hother event hevent => ?_, Option.isSome_iff_exists.2 ⟨_, hlast⟩⟩
    by_cases hne : other = kinds
    · subst hne
      cases hlast.symm.trans hevent
      rfl
    · exact hothers other hother hne event hevent

namespace IsStage

theorem call {call : Call} (hcall : Explores settings call) (hkinds : kinds ∈ stages)
    (hkind : kindOf call ∈ kinds) : IsStage settings kinds call.errand := fun _ hplace =>
  Call.follows_errand _ hcall fun answer => stageEnds_answer hkinds hkind hplace answer

theorem andThen {α β : Type} {first : Errand β} {f : β → Errand α}
    (h : IsStage settings kinds first)
    (hf : ∀ value place, StageEnds kinds place (.ok value) →
      Follows (heardRule settings) (StageEnds kinds) (f value).run place) :
    IsStage settings kinds (first >>= f) := fun place hplace =>
  Follows.andThen _ (h place hplace) (fun place value => hf value place) fun _ _ herror => herror

theorem retry {α : Type} {policy : RetryPolicy} {errand : Errand α}
    (h : IsStage settings kinds errand) : IsStage settings kinds (retry policy errand) :=
  fun place hplace => Follows.retryIf (Within kinds) hplace fun place hplace =>
    (h place hplace).mono fun _ result hresult =>
      ⟨hresult, by rintro failure rfl -; exact hresult.1⟩

end IsStage

theorem advance_isStage (hindicator : settings.handling.indicatorOnly = false) :
    IsStage settings [.readRow, .transition] (Tracker.ofSettings settings).advance := by
  have hcall {call : Call} (h : (Tracker.ofSettings settings).Asks .advance call) :
      IsStage settings [.readRow, .transition] call.errand := by
    refine .call (.advance hindicator h) (by decide) ?_
    cases h with
    | readRow => exact List.mem_cons_self
    | transition => exact List.mem_cons_of_mem _ List.mem_cons_self
  have hcurrent : IsStage settings [.readRow, .transition] (Tracker.ofSettings settings).current :=
    (hcall .readRow).andThen fun _ _ hplace => .done hplace
  refine IsStage.retry (hcurrent.andThen fun record place hplace => ?_)
  split
  · next hdue =>
    refine (hcall (.transition record hdue)).andThen (fun applied place hplace => ?_) place
      hplace.1.within
    cases applied with
    | true => exact .done hplace
    | false =>
      refine IsStage.andThen hcurrent (fun winner place hplace => ?_) place hplace.1.within
      exact .done hplace
  · exact .done hplace

end Stage

/-- Where an errand of the survey leads: no stage has failed, or what has failed is the result. -/
def Faultless {α : Type} (place : Heard) : Except Failure α → Prop
  | .ok _ => Settled place.events
  | .error failure => Fails settings place.events failure

variable {settings} in
theorem postIndicator_follows {place : Heard} (hplace : Settled place.events) :
    Follows (heardRule settings)
      (fun place result => Faultless settings place result ∧
        ((Indicator.headers? settings.run.topicName).isSome → result = .ok () →
          Posted place.events))
      (postIndicator settings).run place := by
  unfold postIndicator
  split
  · next hheaders => exact .done ⟨hplace, fun h => by simp [hheaders] at h⟩
  · next headers hheaders =>
    have hcall : IsStage settings [.deliver]
        (Call.deliver (headers.pairs settings.run) [.ok Indicator.body]).errand :=
      .call (.deliver _) (by decide) List.mem_cons_self
    have hpost : IsStage settings [.deliver] (retry settings.retries.indicator
        (Call.deliver (headers.pairs settings.run) [.ok Indicator.body]).errand) := hcall.retry
    refine Follows.orElse _ (hpost place hplace.within) (fun place _ hposted => ?_)
      fun place failure hfailed => .done ?_
    · obtain ⟨hsettled, hlast⟩ := hposted
      exact ⟨hsettled, fun _ _ => hsettled.posted hlast⟩
    · obtain ⟨-, call, hlast⟩ := hfailed
      exact ⟨.indicator hheaders hlast, fun _ => nofun⟩

/-- What the survey has found, read from its calls. -/
inductive Surveyed (events : List Event) : Except Failure (Option (List StatusRecord)) → Prop
  | failed {failure : Failure} (hfails : Fails settings events failure) :
    Surveyed events (.error failure)
  | posted (hindicator : settings.handling.indicatorOnly) (hsettled : Settled events)
    (hposted : (Indicator.headers? settings.run.topicName).isSome → Posted events) :
    Surveyed events (.ok none)
  | given (records : List StatusRecord) (hindicator : settings.handling.indicatorOnly = false)
    (hsettled : Settled events) (hqueried : Queried settings events) :
    Surveyed events (.ok (some records))

/-- It can be read as well from calls behind which something has been published. -/
theorem Surveyed.append {settings : Settings} {events published : List Event}
    {found : Except Failure (Option (List StatusRecord))} (h : Surveyed settings events found)
    (hpublished : ∀ event ∈ published, kindOf event.call = .publish) :
    Surveyed settings (events ++ published) found := by
  cases h with
  | failed hfails => exact .failed ((fails_append_iff settings hpublished).2 hfails)
  | posted hindicator hsettled hposted =>
    exact .posted hindicator (hsettled.append hpublished) fun hheaders =>
      (posted_append_iff hpublished).2 (hposted hheaders)
  | given records hindicator hsettled hqueried =>
    exact .given records hindicator (hsettled.append hpublished)
      ((queried_append_iff settings hpublished).2 hqueried)

/-- What the survey finds are the rows its last call has given. -/
def Found (place : Heard) (found : Except Failure (Option (List StatusRecord))) : Prop :=
  Surveyed settings place.events found ∧ ∀ records, found = .ok (some records) →
    place.rows = some records

theorem askRows_follows (hindicator : settings.handling.indicatorOnly = false) {place : Heard}
    (hplace : Settled place.events) :
    Follows (heardRule settings) (Found settings) (askRows settings).run place := by
  refine Follows.andThen (fun place result => StageEnds [.rows] place result ∧
    ∀ records, result = .ok records → Queried settings place.events ∧ place.rows = some records)
    ?_ (fun place records hplace => .done ?_) fun place failure hplace => ?_
  · refine Follows.retryIf (Within [.rows]) hplace.within fun place hplace => ?_
    have hallowed : (heardRule settings).allows place (.rows settings.run.correlationId) :=
      .rows hindicator
    refine Call.follows_errand _ hallowed fun answer => ?_
    have hkind : kindOf (.rows settings.run.correlationId) ∈ [CallKind.rows] := List.mem_cons_self
    have hends : StageEnds [.rows] ((heardRule settings).after place ⟨_, answer⟩) answer :=
      stageEnds_answer (by decide) hkind hplace answer
    refine ⟨⟨hends, ?_⟩, by rintro failure rfl -; exact hends.1⟩
    rintro records rfl
    exact ⟨lastOf_concat_self hkind, rfl⟩
  · obtain ⟨⟨hsettled, -⟩, hgiven⟩ := hplace
    obtain ⟨hqueried, hrows⟩ := hgiven records rfl
    exact ⟨.given records hindicator hsettled hqueried, by rintro _ ⟨⟩; exact hrows⟩
  · obtain ⟨⟨-, call, hlast⟩, -⟩ := hplace
    exact ⟨.failed (.query hlast), nofun⟩

theorem survey_follows :
    Follows (heardRule settings) (Found settings) (survey settings).run ⟨[], none⟩ := by
  have hstart : Settled (Heard.mk [] none).events := by
    intro kinds _ event hevent
    cases hevent
  unfold survey
  cases hindicator : settings.handling.indicatorOnly with
  | true =>
    simp only [if_true]
    refine Follows.andThen _ (postIndicator_follows hstart) (fun place _ hplace => .done ?_)
      fun place failure hplace => ?_
    · exact ⟨.posted hindicator hplace.1 fun hheaders => hplace.2 hheaders rfl, nofun⟩
    · exact ⟨.failed hplace.1, nofun⟩
  | false =>
    simp only [Bool.false_eq_true, if_false]
    refine Follows.andThen (Faultless settings) ?_
      (fun place _ hplace => askRows_follows settings hindicator hplace)
      fun place failure hplace => ⟨.failed hplace, nofun⟩
    refine Follows.andThen _ (advance_isStage hindicator _ hstart.within)
      (fun place state hplace => ?_) fun place failure hplace => ?_
    · split
      · exact (postIndicator_follows hplace.1).mono fun _ _ h => h.1
      · exact .done hplace.1
    · obtain ⟨-, call, hlast⟩ := hplace
      exact .update hlast

theorem survey_makes : Makes (Explores settings) (survey settings).run :=
  .of_follows (survey_follows settings) fun _ _ h => h

/-- The remembered calls are those since the beginning, and the remembered rows those of the
    export. -/
def Recalls (before : World) (place : Heard) (state : World) : Prop :=
  before.Adds state place.events ∧
    ∀ records, place.rows = some records →
      records = state.table.records settings.run.correlationId

theorem Recalls.ask {before : World} {place : Heard} {state : World} {call : Call}
    (h : Recalls settings before place state) (hcall : Explores settings call) :
    Recalls settings before ((heardRule settings).after place ⟨call, (state.answer call).1⟩)
      (state.answer call).2 := by
  refine ⟨?_, fun given hgiven => ?_⟩
  · have hevent := hcall.event_answer state
    dsimp only [heardRule]
    rw [hevent]
    exact h.1.trans (state.adds_answer call)
  · cases call with
    | rows correlationId =>
      rw [← hcall.correlationId_eq]
      obtain ⟨failure, -, hanswer⟩ | ⟨-, hanswer⟩ := state.answer_cases (.rows correlationId)
      · rw [hanswer] at hgiven
        cases hgiven
      · rw [hanswer] at hgiven ⊢
        exact (Option.some.inj hgiven).symm
    | _ => cases hgiven

/-- What a survey of the collaborators finds is what its calls have shown, and if it finds rows they
    are all that the table has of the export. -/
theorem run_survey (world : World) {found : Except Failure (Option (List StatusRecord))}
    (hfound : (World.run (survey settings) world).1 = some found) :
    ∃ events, world.Adds (World.run (survey settings) world).2 events ∧
      Surveyed settings events found ∧ ∀ records, found = .ok (some records) → records =
        (World.run (survey settings) world).2.table.records settings.run.correlationId := by
  have hstart : Recalls settings world ⟨[], none⟩ world := ⟨rfl, nofun⟩
  have hpass (place : Heard) (state : World) (nanos : Nat)
      (h : Recalls settings world place state) :
      Recalls settings world place (state.pass nanos) := h
  obtain ⟨place, ⟨hsurveyed, hrows⟩, hadds, hgiven⟩ := (survey_follows settings).run hstart
    (fun _ _ _ hcall h => h.ask settings hcall) hpass hfound
  exact ⟨place.events, hadds, hsurveyed, fun records h => hgiven records (hrows records h)⟩

end Closing

end Courier

import Courier.Proofs.Export.Topic
import Courier.Proofs.Item.Phase
import Courier.Proofs.Run.Restart
import Courier.Proofs.Run.Tally

/-!
Objects that may not be sent. An object whose name tells no topic, or a blocked one, is looked up
under its marker at most: whatever the collaborators answer, and however the members of a run
interleave, no other call is made for it, and it ends as skipped, as rejected for its name, or with
the failure of the look for its marker. Whatever is delivered names a topic that is not blocked.
-/

namespace Courier

open Memory Program

/-- The name of an object tells no topic, or a blocked one. -/
def Settings.Bars (settings : Settings) (key : String) : Prop :=
  ∀ topic, Topic.ofFileName? (plainName (fileName key)) = some topic →
    topic.name ∈ settings.handling.blockedTopics

/-- The headers name one topic, which is not blocked. -/
def Settings.Admits (settings : Settings) (headers : List (String × String)) : Prop :=
  ∃ topic, topic ∉ settings.handling.blockedTopics ∧
    ∀ value, ("topic", value) ∈ headers ↔ value = topic

/-- What becomes of an object that is barred: its marker is there, or it is rejected for its
    name. -/
def Settings.Withholds (settings : Settings) (key : String) : ItemOutcome → Prop
  | .skipped => True
  | .delivered => False
  | .rejected reason =>
    Topic.resolve settings.handling.blockedTopics (plainName (fileName key)) = .error reason

namespace Item

variable {settings : Settings} {key : String}

/-- A name that is refused rejects its object before anything is read. -/
theorem deliverOrReject_of_refused {reason : Failure}
    (h : Topic.resolve settings.handling.blockedTopics (plainName (fileName key)) = .error reason) :
    deliverOrReject settings key = pure (some reason) := by
  have hdeliver : deliver settings key = throw reason := by
    unfold deliver
    dsimp only
    rw [h]
    rfl
  have hcatch : deliverOrReject settings key =
      (if reason.isPermanent then pure (some reason) else throw reason) := by
    unfold deliverOrReject
    rw [hdeliver]
    rfl
  rw [hcatch, if_pos (Topic.isPermanent_of_resolve h)]

/-- Only the marker of an object may be looked for. The place is how the look has failed last. -/
def lookRule (settings : Settings) (key : String) : Rule Call.Answer (Option Failure) where
  allows _ call := call = .contains (markerKey settings key)
  after
    | _, ⟨.contains _, .error failure⟩ => some failure
    | _, _ => none

/-- The work ends with an outcome for a barred object, or with the failure of the last look. -/
def LookEnds (settings : Settings) (key : String) (last : Option Failure) :
    Except Failure ItemOutcome → Prop
  | .ok outcome => settings.Withholds key outcome
  | .error failure => last = some failure

theorem alreadySent_follows_look (settings : Settings) (key : String) :
    Follows (lookRule settings key) (fun last result => ∀ failure, result = .error failure →
      last = some failure) (alreadySent settings key).run none := by
  unfold alreadySent
  split
  · refine .done ?_
    rintro failure ⟨⟩
  · refine Follows.retryIf (fun _ => True) trivial fun _ _ => ?_
    refine Call.follows_errand (.contains _) rfl fun answer => ⟨?_, fun _ _ _ => trivial⟩
    rintro failure rfl
    rfl

/-- For a barred object nothing but its marker is asked for. -/
theorem process_follows_look (h : settings.Bars key) :
    Follows (lookRule settings key) (LookEnds settings key) (process settings key).run none := by
  obtain ⟨reason, hreason⟩ := Topic.exists_resolve_error_iff.2 h
  unfold process
  rw [deliverOrReject_of_refused hreason]
  refine Follows.andThen _ (alreadySent_follows_look settings key) ?_ ?_
  · rintro last sent -
    cases sent with
    | true => exact .done trivial
    | false => exact .done hreason
  · rintro last failure hlast
    exact hlast failure rfl

/-- A delivery names the topic of its object, which is not blocked. -/
theorem admits_of_asks {headers : List (String × String)} {body : Body}
    (h : Asks settings key (.deliver headers body)) : settings.Admits headers := by
  cases h with
  | delivering hdelivering =>
    cases hdelivering with
    | deliver topic htopic body =>
      refine ⟨topic.name, (Topic.resolve_eq_ok_iff.1 htopic).2, fun value => ?_⟩
      simp [FileHeaders.pairs, FileHeaders.ofFile]

end Item

namespace Stage

variable {settings : Settings}

/-- A step of a run up to its closing, whatever the collaborators answer. -/
def Sending (settings : Settings) (stage : Stage) (label : Option Asked) (next : Stage) : Prop :=
  stage.IsSending ∧ stage.Step settings label next

theorem sending_of_sends {first last : World × Stage} {asked : List (Option Asked)}
    (h : Path (Sends settings) first asked last) :
    Path (Sending settings) first.2 asked last.2 := by
  induction h with
  | nil => exact .nil _
  | cons hstep _ ih => exact .cons ⟨hstep.1, hstep.step⟩ ih

end Stage

/-- A step as it may be: it makes no call, or for a barred object a look for its marker and nothing
    else, and a delivery only under a topic that is not blocked. -/
def Settings.Tolerates (settings : Settings) : Option Asked → Prop
  | none => True
  | some made =>
    (∀ key, made.key? = some key → settings.Bars key →
      made.turn.op = .contains (Item.markerKey settings key)) ∧
    ∀ headers body, made.turn.op = .deliver headers body → settings.Admits headers

/-- The work on an object makes its own calls; if the object is barred, it is what is left of a look
    for its marker. -/
structure LaneHeld (settings : Settings) (asked : List (Option Asked))
    (lane : String × Program Call.Answer (Except Failure ItemOutcome)) : Prop where
  makes : Makes (Item.Asks settings lane.1) lane.2
  look : settings.Bars lane.1 → ∃ last,
    Follows (Item.lookRule settings lane.1) (Item.LookEnds settings lane.1) lane.2 last ∧
      ∀ failure, last = some failure →
        some ⟨some lane.1, ⟨.contains (Item.markerKey settings lane.1), .error failure⟩⟩ ∈ asked

namespace LaneHeld

variable {settings : Settings} {asked asked' : List (Option Asked)} {key : String}
  {program rest : Program Call.Answer (Except Failure ItemOutcome)}

theorem of_process (settings : Settings) (asked : List (Option Asked)) (key : String) :
    LaneHeld settings asked (key, (Item.process settings key).run) := by
  refine ⟨Item.process_makes settings key, fun h => ⟨none, Item.process_follows_look h, ?_⟩⟩
  rintro failure ⟨⟩

theorem mono {lane : String × Program Call.Answer (Except Failure ItemOutcome)}
    (h : LaneHeld settings asked lane) (hasked : asked ⊆ asked') :
    LaneHeld settings asked' lane := by
  refine ⟨h.makes, fun hbars => ?_⟩
  obtain ⟨last, hfollows, hlast⟩ := h.look hbars
  exact ⟨last, hfollows, fun failure hfailure => hasked (hlast failure hfailure)⟩

/-- The next call for an object is tolerated, and the rest of the work goes on like this. -/
theorem ask {turn : Turn Call.Answer} (h : LaneHeld settings asked (key, program))
    (hstep : program.Step (some turn) rest) :
    settings.Tolerates (some ⟨some key, turn⟩) ∧
      LaneHeld settings (asked ++ [some ⟨some key, turn⟩]) (key, rest) := by
  obtain ⟨hasks, hmakes⟩ := h.makes.step_ask hstep
  refine ⟨⟨?_, ?_⟩, hmakes, fun hbars => ?_⟩
  · intro other hother hbars
    obtain rfl : key = other := Option.some.inj hother
    obtain ⟨last, hfollows, -⟩ := h.look hbars
    exact (hfollows.step_ask hstep).1
  · rintro headers body hdeliver
    exact Item.admits_of_asks (hdeliver ▸ hasks)
  · obtain ⟨last, hfollows, -⟩ := h.look hbars
    obtain ⟨hlook, hrest⟩ := hfollows.step_ask hstep
    refine ⟨_, hrest, fun failure hfailure => ?_⟩
    obtain ⟨call, answer⟩ := turn
    obtain rfl : call = .contains (Item.markerKey settings key) := hlook
    cases answer with
    | ok found => cases hfailure
    | error e =>
      obtain rfl : e = failure := Option.some.inj hfailure
      exact List.mem_append_right _ (List.mem_singleton_self _)

theorem wait (h : LaneHeld settings asked (key, program)) (hstep : program.Step none rest) :
    LaneHeld settings asked (key, rest) := by
  refine ⟨h.makes.step_wait hstep, fun hbars => ?_⟩
  obtain ⟨last, hfollows, hlast⟩ := h.look hbars
  exact ⟨last, hfollows.step_wait hstep, hlast⟩

/-- What an object that is done has come to, if it is barred. -/
theorem done {result : Except Failure ItemOutcome}
    (h : LaneHeld settings asked (key, .done result)) (hbars : settings.Bars key) :
    (∃ outcome, result = .ok outcome ∧ settings.Withholds key outcome) ∨
      ∃ failure, result = .error failure ∧
        some ⟨some key, ⟨.contains (Item.markerKey settings key), .error failure⟩⟩ ∈ asked := by
  obtain ⟨last, hfollows, hlast⟩ := h.look hbars
  cases hfollows with
  | done hends =>
    cases result with
    | ok outcome => exact .inl ⟨outcome, rfl, hends⟩
    | error failure => exact .inr ⟨failure, rfl, hlast failure hends⟩

end LaneHeld

/-- The run has been told which objects its folder holds. -/
def Told (settings : Settings) (asked : List (Option Asked)) (listed : List String) : Prop :=
  some ⟨none, ⟨.list settings.storage.folder, .ok listed⟩⟩ ∈ asked

/-- No outcome of a barred object is another than one that withholds it. -/
def AllWithheld (settings : Settings) (settled : List (String × ItemOutcome)) : Prop :=
  ∀ entry ∈ settled, settings.Bars entry.1 → settings.Withholds entry.1 entry.2

/-- What holds at every stage of a run: all work is withheld from barred objects, and every object of
    the listing is at work, waits, or has been added up. -/
def StageHeld (settings : Settings) (asked : List (Option Asked)) : Stage → Prop
  | .listing program => ∃ place, Follows (listRule settings) ListEnds program place ∧
    ∀ listed, place = some listed → Told settings asked listed
  | .working shift => (∀ lane ∈ shift.crew ++ shift.queue, LaneHeld settings asked lane) ∧
    ∃ listed settled, Told settings asked listed ∧
      Tallies settings.handling.skipLimit (candidates listed) settled shift ∧
      AllWithheld settings settled
  | .closing run _ => ∀ summary, run = .ok summary → ∃ listed settled,
    Told settings asked listed ∧ (settled.map Prod.fst).Perm (candidates listed) ∧
      summary = .ofOutcomes (candidates listed).length (settled.map Prod.snd) ∧
      AllWithheld settings settled
  | .ended _ => True

namespace StageHeld

variable {settings : Settings} {asked : List (Option Asked)} {stage next : Stage}

theorem first (settings : Settings) : StageHeld settings [] (.first settings) :=
  ⟨none, list_follows settings, nofun⟩

theorem list {program rest : Program Call.Answer (Except Failure (List String))}
    {turn : Option (Turn Call.Answer)} (h : StageHeld settings asked (.listing program))
    (hstep : program.Step turn rest) :
    settings.Tolerates (turn.map (Asked.mk none)) ∧
      StageHeld settings (asked ++ [turn.map (Asked.mk none)]) (.listing rest) := by
  obtain ⟨place, hfollows, hplace⟩ := h
  cases turn with
  | none =>
    exact ⟨trivial, place, hfollows.step_wait hstep, fun listed hlisted =>
      List.mem_append_left _ (hplace listed hlisted)⟩
  | some turn =>
    obtain ⟨hlist, hrest⟩ := hfollows.step_ask hstep
    obtain ⟨call, answer⟩ := turn
    obtain rfl : call = .list settings.storage.folder := hlist
    refine ⟨⟨fun _ h => ?_, fun _ _ h => ?_⟩, _, hrest, fun listed hlisted => ?_⟩
    · cases h
    · cases h
    · cases answer with
      | ok keys =>
        obtain rfl : keys = listed := Option.some.inj hlisted
        exact List.mem_append_right _ (List.mem_singleton_self _)
      | error failure => cases hlisted

theorem listed {keys : List String} (h : StageHeld settings asked (.listing (.done (.ok keys)))) :
    StageHeld settings asked (.ofKeys settings (candidates keys)) := by
  obtain ⟨place, hfollows, hplace⟩ := h
  cases hfollows with
  | done hends =>
    refine ⟨fun lane hlane => ?_, keys, [], hplace keys (hends keys rfl), Tallies.start ..,
      fun _ h => absurd h List.not_mem_nil⟩
    rw [Shift.start, List.take_append_drop] at hlane
    obtain ⟨key, -, rfl⟩ := List.mem_map.1 hlane
    exact LaneHeld.of_process settings asked key

theorem move {crew crew' queue : Lanes} {tally : Summary} {key : String}
    {turn : Option (Turn Call.Answer)}
    (h : StageHeld settings asked (.working ⟨crew, queue, tally⟩))
    (hmove : crew.Move key turn crew') :
    settings.Tolerates (turn.map (Asked.mk (some key))) ∧
      StageHeld settings (asked ++ [turn.map (Asked.mk (some key))])
        (.working ⟨crew', queue, tally⟩) := by
  obtain ⟨hlanes, listed, settled, htold, htallies, hsettled⟩ := h
  obtain ⟨program, rest, hmember, hstep, hcrew⟩ := hmove.exists_step
  have hlane : LaneHeld settings asked (key, program) :=
    hlanes _ (List.mem_append_left _ hmember)
  have hgoes : settings.Tolerates (turn.map (Asked.mk (some key))) ∧
      LaneHeld settings (asked ++ [turn.map (Asked.mk (some key))]) (key, rest) := by
    cases turn with
    | none => exact ⟨trivial, (hlane.wait hstep).mono (List.subset_append_left _ _)⟩
    | some turn => exact hlane.ask hstep
  refine ⟨hgoes.1, fun lane hother => ?_, listed, settled, List.mem_append_left _ htold,
    htallies.move hmove, hsettled⟩
  obtain hother | hother := List.mem_append.1 hother
  · obtain rfl | hbefore := hcrew lane hother
    · exact hgoes.2
    · exact (hlanes lane (List.mem_append_left _ hbefore)).mono (List.subset_append_left _ _)
  · exact (hlanes lane (List.mem_append_right _ hother)).mono (List.subset_append_left _ _)

theorem settle {front back queue : Lanes} {tally tally' : Summary} {key : String}
    {result : Except Failure ItemOutcome}
    (h : StageHeld settings asked (.working ⟨front ++ (key, .done result) :: back, queue, tally⟩))
    (hmore : Summary.add settings.handling.skipLimit tally result = .more tally') :
    StageHeld settings asked
      (.working ⟨front ++ back ++ queue.take 1, queue.drop 1, tally'⟩) := by
  obtain ⟨hlanes, listed, settled, htold, htallies, hsettled⟩ := h
  obtain ⟨outcome, rfl, htallies'⟩ := htallies.settle hmore
  refine ⟨fun lane hlane => ?_, listed, _, htold, htallies', ?_⟩
  · rw [lanes_taken] at hlane
    exact hlanes lane (mem_lanes_iff.2 (.inr hlane))
  · rintro entry hentry hbars
    obtain rfl | hentry := List.mem_cons.1 hentry
    · have hdone := hlanes _ (mem_lanes_iff.2 (.inl rfl))
      obtain ⟨_, ⟨⟩, houtcome⟩ | ⟨_, ⟨⟩, -⟩ := hdone.done hbars
      exact houtcome
    · exact hsettled entry hentry hbars

theorem finish {tally : Summary} (h : StageHeld settings asked (.working ⟨[], [], tally⟩)) :
    StageHeld settings asked (.ofRun settings (.ok tally)) := by
  obtain ⟨-, listed, settled, htold, htallies, hsettled⟩ := h
  rintro _ ⟨⟩
  exact ⟨listed, settled, htold, htallies.perm_of_nil, htallies.tally, hsettled⟩

theorem failed {run : Except Failure Summary} (h : ∃ failure, run = .error failure) :
    StageHeld settings asked (.ofRun settings run) := by
  obtain ⟨failure, rfl⟩ := h
  rintro summary ⟨⟩

theorem mono {asked' : List (Option Asked)} (h : StageHeld settings asked stage)
    (hasked : asked ⊆ asked') : StageHeld settings asked' stage := by
  cases stage with
  | listing program =>
    obtain ⟨place, hfollows, hplace⟩ := h
    exact ⟨place, hfollows, fun listed hlisted => hasked (hplace listed hlisted)⟩
  | working shift =>
    obtain ⟨hlanes, listed, settled, htold, hrest⟩ := h
    exact ⟨fun lane hlane => (hlanes lane hlane).mono hasked, listed, settled, hasked htold, hrest⟩
  | closing run program =>
    intro summary hsummary
    obtain ⟨listed, settled, htold, hrest⟩ := h summary hsummary
    exact ⟨listed, settled, hasked htold, hrest⟩
  | ended result => trivial

/-- Every step of a run up to its closing makes a tolerated call at most, and leads to a stage like
    this. -/
theorem step {label : Option Asked} (h : StageHeld settings asked stage)
    (hsending : stage.Sending settings label next) :
    settings.Tolerates label ∧ StageHeld settings (asked ++ [label]) next := by
  -- a step without a call only adds a silent entry behind the calls that have been made
  have hsilent {next : Stage} (hnext : StageHeld settings asked next) :
      settings.Tolerates none ∧ StageHeld settings (asked ++ [none]) next :=
    ⟨trivial, hnext.mono (List.subset_append_left _ _)⟩
  obtain ⟨hopen, hstep⟩ := hsending
  cases hstep with
  | list hstep => exact h.list hstep
  | listed keys => exact hsilent h.listed
  | unlisted failure => exact hsilent (failed ⟨failure, rfl⟩)
  | work hstep =>
    cases hstep with
    | move hmove =>
      rw [Option.map_map]
      exact h.move hmove
    | settle front back queue key result hmore => exact hsilent (h.settle hmore)
  | worked hstep =>
    generalize hnone : none = turn at hstep
    cases hstep with
    | stop front back queue key result hstop =>
      exact hsilent (failed (Summary.error_of_add_eq_stop hstop))
    | finish tally => exact hsilent h.finish
  | close | closed => exact hopen.elim

theorem path {labels : List (Option Asked)} (h : StageHeld settings asked stage)
    (hpath : Path (Stage.Sending settings) stage labels next) :
    (∀ label ∈ labels, settings.Tolerates label) ∧ StageHeld settings (asked ++ labels) next := by
  induction hpath generalizing asked with
  | nil => exact ⟨fun _ h => absurd h List.not_mem_nil, (List.append_nil asked).symm ▸ h⟩
  | @cons _ _ _ label labels hstep _ ih =>
    obtain ⟨hfirst, hnext⟩ := h.step hstep
    obtain ⟨hlabels, hlast⟩ := ih hnext
    exact ⟨List.forall_mem_cons.2 ⟨hfirst, hlabels⟩, List.append_cons asked label labels ▸ hlast⟩

end StageHeld

/-- However the members of a run interleave and whatever its collaborators answer: all calls for an
    object whose name tells no topic, or a blocked one, look for its marker; if the work on it is
    over, it is skipped, rejected for its name, or the look has failed; and as such it is charged in
    the summary. Every delivery names one topic, which is not blocked. -/
theorem barred_objects_stay {settings : Settings} {asked : List (Option Asked)} {stage : Stage}
    (hpath : Path (Stage.Sending settings) (.first settings) asked stage) :
    (∀ key turn, settings.Bars key → some ⟨some key, turn⟩ ∈ asked →
      turn.op = .contains (Item.markerKey settings key)) ∧
    (∀ key? headers body answer, some ⟨key?, ⟨.deliver headers body, answer⟩⟩ ∈ asked →
      settings.Admits headers) ∧
    match stage with
    | .working shift =>
      (∀ key result, (key, .done result) ∈ shift.crew → settings.Bars key →
        (∃ outcome, result = .ok outcome ∧ settings.Withholds key outcome) ∨
          ∃ failure, result = .error failure ∧
            some ⟨some key, ⟨.contains (Item.markerKey settings key), .error failure⟩⟩ ∈ asked) ∧
      ∃ listed settled, Told settings asked listed ∧
        Tallies settings.handling.skipLimit (candidates listed) settled shift ∧
        AllWithheld settings settled
    | .closing (.ok summary) _ => ∃ listed settled, Told settings asked listed ∧
      (settled.map Prod.fst).Perm (candidates listed) ∧
      summary = .ofOutcomes (candidates listed).length (settled.map Prod.snd) ∧
      AllWithheld settings settled
    | _ => True := by
  obtain ⟨htolerates, hstage⟩ := (StageHeld.first settings).path hpath
  refine ⟨fun key turn hbars hmade => (htolerates _ hmade).1 key rfl hbars,
    fun key? headers body answer hmade => (htolerates _ hmade).2 headers body rfl, ?_⟩
  cases stage with
  | listing | ended => trivial
  | working shift =>
    obtain ⟨hlanes, hsettled⟩ := hstage
    exact ⟨fun key result hdone hbars =>
      (hlanes _ (List.mem_append_left _ hdone)).done hbars, hsettled⟩
  | closing run program =>
    cases run with
    | error => trivial
    | ok summary => exact hstage summary rfl

namespace Sample

/-- The topic of the run's only object is blocked, and one object may be rejected. -/
def blocking : Settings :=
  { settings with
    handling := { settings.handling with skipLimit := 1, blockedTopics := ["db.core.thing"] } }

theorem bars_key : blocking.Bars key := by
  have hname : Topic.ofFileName? (plainName (fileName key)) =
      some ⟨"core", "thing", "db.core.thing"⟩ := by decide +kernel
  intro topic htopic
  obtain rfl := Option.some.inj (hname.symm.trans htopic)
  exact List.mem_singleton_self _

/-- The object has been rejected, and the run comes to its closing. -/
theorem exists_path_rejected : ∃ asked, Path (Stage.Sending blocking) (.first blocking) asked
    (.ofRun blocking (.ok ⟨1, 0, 0, 1⟩)) := by
  have hlist : World.run (retry blocking.retries.objectStore
      (Call.list blocking.storage.folder).errand) Sample.world =
      (some (.ok (Sample.world.keys.filter (Text.startsWith blocking.storage.folder))),
        Sample.world.noted (.list blocking.storage.folder)) := rfl
  obtain ⟨front, hfront⟩ := Stage.exists_path_of_list hlist
  have htodo : candidates (Sample.world.keys.filter (Text.startsWith blocking.storage.folder)) =
      [key] := todo_of_objects rfl
  rw [htodo] at hfront
  have hrejected : ((Item.process blocking key).run.run World.answer World.pass
      (Sample.world.noted (.list blocking.storage.folder))).1 =
        some (.ok (.rejected ⟨.blockedTopic, .topicBlocked "db.core.thing"⟩)) := by
    decide +kernel
  obtain ⟨middle, hmiddle⟩ := Stage.exists_path_of_lane blocking [] [] [] key (.start 1) hrejected
  have hsent := hfront.append hmiddle
  exact ⟨_, (Stage.sending_of_sends hsent).append
    (.cons ⟨trivial, .work (.settle [] [] [] key _ rfl)⟩
      (.cons ⟨trivial, .worked (.finish _)⟩ (.nil _)))⟩

end Sample

theorem barred_objects_stay_blocking : Sample.blocking.Bars Sample.key ∧
    ∃ asked, Path (Stage.Sending Sample.blocking) (.first Sample.blocking) asked
        (.ofRun Sample.blocking (.ok ⟨1, 0, 0, 1⟩)) ∧
      (∀ turn, some ⟨some Sample.key, turn⟩ ∈ asked →
        turn.op = .contains (Item.markerKey Sample.blocking Sample.key)) ∧
      (∀ key? headers body answer, some ⟨key?, ⟨.deliver headers body, answer⟩⟩ ∈ asked →
        Sample.blocking.Admits headers) ∧
      ∃ listed settled, Told Sample.blocking asked listed ∧
        (settled.map Prod.fst).Perm (candidates listed) ∧
        ⟨1, 0, 0, 1⟩ = Summary.ofOutcomes (candidates listed).length (settled.map Prod.snd) ∧
        AllWithheld Sample.blocking settled := by
  obtain ⟨asked, hpath⟩ := Sample.exists_path_rejected
  obtain ⟨hcalls, hheaders, hsettled⟩ := barred_objects_stay hpath
  exact ⟨Sample.bars_key, asked, hpath, fun turn => hcalls _ turn Sample.bars_key, hheaders,
    hsettled⟩

end Courier

import Courier.Proofs.Run.Blocking
import Courier.Proofs.Run.Rounds

/-!
The accounts of a run. Whatever its collaborators answer and however its members interleave, a run
that succeeds has visited every object of its listing once and has counted what became of it, and a
run that overdraws its budget has done so by one.
-/

namespace Courier

open Program

/-- The keys that end in `.enc`. -/
def encryptedKeys (keys : List String) : List String :=
  keys.filter fun key => decide (".enc".toList <:+ key.toList)

/-- What has been collected makes the summary, and stays within the budget. -/
def AddsUp (limit listed : Nat) (collected : List Visit) (summary : Summary) : Prop :=
  ∃ outcomes : List ItemOutcome,
    collected.map Visit.result? = outcomes.map (fun outcome => some (.ok outcome)) ∧
    summary = .ofOutcomes listed outcomes ∧ outcomes.countP ItemOutcome.isRejected ≤ limit

namespace AddsUp

variable {limit listed : Nat} {collected : List Visit} {tally : Summary} {visit : Visit}
  {result : Except Failure ItemOutcome}

theorem countP_eq {outcomes : List ItemOutcome}
    (h : collected.map Visit.result? = outcomes.map fun outcome => some (.ok outcome)) :
    collected.countP Visit.isRejected = outcomes.countP ItemOutcome.isRejected := by
  have hvisits : collected.countP Visit.isRejected =
      (collected.map Visit.result?).countP (Option.any rejects) := List.countP_map.symm
  rw [hvisits, h, List.countP_map]
  rfl

theorem start (limit listed : Nat) : AddsUp limit listed [] (.start listed) :=
  ⟨[], rfl, rfl, Nat.zero_le _⟩

/-- An outcome is added up. -/
theorem settle {tally' : Summary} (h : AddsUp limit listed collected tally)
    (hresult : visit.rest = .done result) (hmore : Summary.add limit tally result = .more tally') :
    AddsUp limit listed (collected ++ [visit]) tally' := by
  obtain ⟨outcomes, hcollected, rfl, hbudget⟩ := h
  obtain ⟨outcome, rfl, rfl, hbudget'⟩ := Summary.of_add_eq_more hbudget hmore
  refine ⟨outcomes ++ [outcome], ?_, (Summary.ofOutcomes_concat _).symm, ?_⟩
  · simp [hcollected, Visit.result?, hresult]
  · rw [List.countP_append, Nat.add_comm, ← List.countP_append]
    exact hbudget'

/-- The work ends early with a failure of the visit, or with the first rejection beyond the
    budget. -/
theorem stop {run : Except Failure Summary} (h : AddsUp limit listed collected tally)
    (hresult : visit.rest = .done result) (hstop : Summary.add limit tally result = .stop run) :
    ∃ failure, run = .error failure ∧ (result = .error failure ∨
      visit.isRejected ∧ failure = ⟨.skipBudget, .tooManyRejected (limit + 1) limit⟩ ∧
        (collected ++ [visit]).countP Visit.isRejected = limit + 1) := by
  obtain ⟨outcomes, hcollected, rfl, hbudget⟩ := h
  cases result with
  | error failure =>
    cases hstop
    exact ⟨failure, rfl, .inl rfl⟩
  | ok outcome =>
    cases outcome with
    | skipped | delivered => cases hstop
    | rejected reason =>
      simp only [Summary.add] at hstop
      split at hstop
      · next hover =>
        have hfull : outcomes.countP ItemOutcome.isRejected = limit :=
          Nat.le_antisymm hbudget (Nat.le_of_lt_succ hover)
        have hrejected : visit.isRejected := by
          simp [Visit.isRejected, Visit.result?, hresult, rejects]
        cases hstop
        refine ⟨_, rfl, .inr ⟨hrejected, ?_, ?_⟩⟩
        · rw [← hfull]
          rfl
        · rw [List.countP_append, countP_eq hcollected, hfull, List.countP_singleton, hrejected]
          rfl
      · cases hstop

end AddsUp

/-- A successful run, with the listing it has been told and its visits. -/
structure Balanced (settings : Settings) (asked : List (Option Asked)) (summary : Summary)
    (keys : List String) (visits : List Visit) : Prop where
  told : listings asked = [keys]
  rounds : Rounds settings (encryptedKeys keys) asked visits [] []
  addsUp : AddsUp settings.handling.skipLimit (encryptedKeys keys).length visits summary
  listed : summary.listed = (encryptedKeys keys).length
  sum : summary.listed = summary.skipped + summary.delivered + summary.rejected
  budget : summary.rejected ≤ settings.handling.skipLimit

/-- A failure that a collaborator has answered. -/
def Answered (asked : List (Option Asked)) (failure : Failure) : Prop :=
  ∃ ask ∈ asked.reduceOption, ask.turn.failure? = some failure

/-- The visits that have been collected overdraw the budget by one. -/
structure Overdrawn (limit : Nat) (visits : List Visit) (failure : Failure) : Prop where
  failure : failure = ⟨.skipBudget, .tooManyRejected (limit + 1) limit⟩
  rejected : visits.countP Visit.isRejected = limit + 1
  permanent : ∀ visit ∈ visits, visit.isRejected → ∃ reason : Failure,
    visit.rest = .done (.ok (.rejected reason)) ∧
      reason.kind ∈ [.keyRejected, .metadata, .blockedTopic, .decryption]

/-- A run that has failed at its last visit: the work on the object has failed with an answer, or
    the object is the first one rejected beyond the budget. -/
structure Stopped (settings : Settings) (asked : List (Option Asked)) (failure : Failure)
    (keys : List String) (collected : List Visit) (last : Visit) (opened waiting : List Visit) :
    Prop where
  told : listings asked = [keys]
  rounds : Rounds settings (encryptedKeys keys) asked (collected ++ [last]) opened waiting
  addsUp : ∃ tally, AddsUp settings.handling.skipLimit (encryptedKeys keys).length collected tally
  cause : (last.rest = .done (.error failure) ∧ Answered asked failure) ∨
    (last.isRejected ∧ Overdrawn settings.handling.skipLimit (collected ++ [last]) failure)
  alone : settings.handling.workers ≤ 1 → opened = []

/-- A run that has failed to list its objects. -/
structure Unlisted (asked : List (Option Asked)) (failure : Failure) : Prop where
  told : listings asked = []
  calls : keyedCalls asked = []
  cause : Answered asked failure

/-- What holds of a run that works on the objects with the given keys. -/
def ShiftAccounted (settings : Settings) (keys : List String) (asked : List (Option Asked))
    (shift : Shift String Call.Answer (Except Failure ItemOutcome) Summary) : Prop :=
  ∃ collected opened waiting, Rounds settings keys asked collected opened waiting ∧
    shift.crew = opened.map Visit.lane ∧ shift.queue = waiting.map Visit.lane ∧
    AddsUp settings.handling.skipLimit keys.length collected shift.tally

/-- What holds at every stage of a run. -/
def StageAccounted (settings : Settings) (asked : List (Option Asked)) : Stage → Prop
  | .listing program => ∃ turns, asked.reduceOption = turns.map (Asked.mk none) ∧
    Leads (retry settings.retries.objectStore (Call.list settings.storage.folder).errand).run
      turns program
  | .working shift => ∃ keys, listings asked = [keys] ∧
    ShiftAccounted settings (encryptedKeys keys) asked shift
  | .closing (.ok summary) _ => ∃ keys visits, Balanced settings asked summary keys visits
  | .closing (.error failure) _ => Unlisted asked failure ∨
    ∃ keys collected last opened waiting,
      Stopped settings asked failure keys collected last opened waiting
  | .ended _ => True

section Listing

variable {asked : List (Option Asked)} {turns : List (Turn Call.Answer)}

theorem keyedCalls_of_listing (h : asked.reduceOption = turns.map (Asked.mk none)) :
    keyedCalls asked = [] := by
  rw [keyedCalls, h, List.filterMap_map]
  exact List.filterMap_eq_nil_iff.2 fun _ _ => rfl

/-- A run has been told what the last answer to its listing says. -/
theorem listings_of_listing {folder : String} {failures : List Failure}
    (result : Except Failure (List String))
    (h : asked.reduceOption =
      (failures.map (fun failure => (⟨.list folder, .error failure⟩ : Turn Call.Answer)) ++
        [(⟨.list folder, result⟩ : Turn Call.Answer)]).map (Asked.mk none)) :
    listings asked = result.toOption.toList := by
  have hnone : (failures.map fun failure =>
      Asked.mk none (⟨.list folder, .error failure⟩ : Turn Call.Answer)).filterMap
        Asked.listing? = [] := by
    simp [Asked.listing?]
  rw [listings, h, List.map_append, List.map_map, List.filterMap_append, Function.comp_def, hnone]
  cases result <;> rfl

end Listing

namespace ShiftAccounted

variable {settings : Settings} {keys : List String} {asked : List (Option Asked)}

theorem start (h : keyedCalls asked = []) :
    ShiftAccounted settings keys asked
      (.start settings.handling.workers (.start keys.length) (tasks settings keys)) := by
  have htasks : tasks settings keys = (keys.map (Visit.unstarted settings)).map Visit.lane := by
    rw [tasks, List.map_map]
    rfl
  refine ⟨_, _, _, Rounds.start settings keys h, ?_, ?_, AddsUp.start _ _⟩
  · rw [htasks, Shift.start, List.map_take]
  · rw [htasks, Shift.start, List.map_drop]

theorem move {crew crew' queue : Lanes} {tally : Summary} {key : String}
    {turn : Option (Turn Call.Answer)} (h : ShiftAccounted settings keys asked ⟨crew, queue, tally⟩)
    (hmove : crew.Move key turn crew') :
    ShiftAccounted settings keys (asked ++ [turn.map (Asked.mk (some key))])
      ⟨crew', queue, tally⟩ := by
  obtain ⟨collected, opened, waiting, hrounds, hcrew, hqueue, haddsUp⟩ := h
  cases hmove with
  | mk front back member hstep =>
    obtain ⟨before, visit, after, rfl, rfl, rfl, rfl, rfl⟩ := Visit.exists_of_lane hcrew.symm
    exact ⟨collected, _, waiting, hrounds.move hstep, by simp [Visit.after, Visit.lane], hqueue,
      haddsUp⟩

theorem settle {front back queue : Lanes} {tally tally' : Summary} {key : String}
    {result : Except Failure ItemOutcome}
    (h : ShiftAccounted settings keys asked ⟨front ++ (key, .done result) :: back, queue, tally⟩)
    (hmore : Summary.add settings.handling.skipLimit tally result = .more tally') :
    ShiftAccounted settings keys (asked ++ [none])
      ⟨front ++ back ++ queue.take 1, queue.drop 1, tally'⟩ := by
  obtain ⟨collected, opened, waiting, hrounds, hcrew, rfl, haddsUp⟩ := h
  obtain ⟨before, visit, after, rfl, rfl, rfl, rfl, hdone⟩ := Visit.exists_of_lane hcrew.symm
  refine ⟨_, _, _, hrounds.settle.silent, ?_, ?_, haddsUp.settle hdone hmore⟩
  · simp only [List.map_append, List.map_take]
  · simp only [List.map_drop]

/-- The work ends early, at the visit that is collected last. -/
theorem stop {front back queue : Lanes} {tally : Summary} {key : String}
    {result : Except Failure ItemOutcome} {run : Except Failure Summary}
    (h : ShiftAccounted settings (encryptedKeys keys) asked
      ⟨front ++ (key, .done result) :: back, queue, tally⟩)
    (htold : listings asked = [keys])
    (hstop : Summary.add settings.handling.skipLimit tally result = .stop run) :
    ∃ failure, run = .error failure ∧ ∃ collected last opened waiting,
      Stopped settings (asked ++ [none]) failure keys collected last opened waiting := by
  obtain ⟨collected, opened, waiting, hrounds, hcrew, rfl, haddsUp⟩ := h
  obtain ⟨before, visit, after, rfl, rfl, rfl, rfl, hdone⟩ := Visit.exists_of_lane hcrew.symm
  have hrounds' := hrounds.collect.silent
  have hmember : visit ∈ collected ++ [visit] ++ (before ++ after) ++ waiting := by simp
  obtain ⟨failure, rfl, hcause⟩ := haddsUp.stop hdone hstop
  refine ⟨failure, rfl, collected, visit, _, _, (listings_silent asked).trans htold, hrounds',
    ⟨tally, haddsUp⟩, ?_, fun hsingle => ?_⟩
  · obtain rfl | ⟨hrejected, rfl, hcount⟩ := hcause
    · -- The failure is an answer in the visit, and so one that the run has been given.
      have hgenuine := hrounds'.genuine visit hmember
      rw [Visit.IsGenuine, hdone] at hgenuine
      obtain ⟨turn, hturn, hfailure⟩ := Item.exists_failure_of_process hgenuine
      obtain ⟨ask, hask, rfl⟩ := hrounds'.exists_asked hmember hturn
      exact .inl ⟨hdone, ask, hask, hfailure⟩
    · refine .inr ⟨hrejected, rfl, hcount, fun other hother => ?_⟩
      have hvisited : other ∈ collected ++ [visit] ++ (before ++ after) ++ waiting :=
        List.mem_append_left _ (List.mem_append_left _ hother)
      intro hrejects
      obtain ⟨reason, hrest, hpermanent⟩ := (hrounds'.genuine other hvisited).exists_reason hrejects
      exact ⟨reason, hrest, FailureKind.isPermanent_iff.1 hpermanent⟩
  · obtain ⟨rfl, rfl⟩ := hrounds.eq_nil_of_single hsingle
    rfl

/-- All objects have been visited. -/
theorem finish {tally : Summary}
    (h : ShiftAccounted settings (encryptedKeys keys) asked ⟨[], [], tally⟩)
    (htold : listings asked = [keys]) :
    ∃ visits, Balanced settings (asked ++ [none]) tally keys visits := by
  obtain ⟨collected, opened, waiting, hrounds, hcrew, hqueue, haddsUp⟩ := h
  obtain rfl := List.map_eq_nil_iff.1 hcrew.symm
  obtain rfl := List.map_eq_nil_iff.1 hqueue.symm
  have hlength : (encryptedKeys keys).length = collected.length := by
    simpa using hrounds.members.length_eq
  obtain ⟨outcomes, hcollected, rfl, hbudget⟩ := id haddsUp
  have houtcomes : collected.length = outcomes.length := by
    simpa using congrArg List.length hcollected
  refine ⟨collected, (listings_silent asked).trans htold, hrounds.silent, haddsUp, rfl, ?_,
    hbudget⟩
  rw [Summary.sum_ofOutcomes, ← houtcomes, ← hlength]
  rfl

end ShiftAccounted

namespace StageAccounted

variable {settings : Settings} {asked : List (Option Asked)} {stage next : Stage}

theorem first (settings : Settings) : StageAccounted settings [] (.first settings) :=
  ⟨[], rfl, .here _⟩

theorem step {label : Option Asked} (h : StageAccounted settings asked stage)
    (hsending : stage.Sending settings label next) :
    StageAccounted settings (asked ++ [label]) next := by
  obtain ⟨hopen, hstep⟩ := hsending
  cases hstep with
  | @list _ _ turn hstep =>
    obtain ⟨turns, hturns, hleads⟩ := h
    refine ⟨_, ?_, hleads.step hstep⟩
    cases turn <;> simp [List.reduceOption_append, hturns]
  | listed keys =>
    obtain ⟨turns, hturns, hleads⟩ := h
    obtain ⟨failures, rfl⟩ := (Leads.of_retry hleads).2.2 _ rfl
    have htold : listings asked = [keys] := listings_of_listing (.ok keys) hturns
    refine ⟨keys, (listings_silent asked).trans htold, ?_⟩
    rw [candidates_eq]
    exact .start ((keyedCalls_silent asked).trans (keyedCalls_of_listing hturns))
  | unlisted failure =>
    obtain ⟨turns, hturns, hleads⟩ := h
    obtain ⟨failures, rfl⟩ := (Leads.of_retry hleads).2.2 _ rfl
    have htold : listings asked = [] := listings_of_listing (.error failure) hturns
    refine .inl ⟨(listings_silent asked).trans htold,
      (keyedCalls_silent asked).trans (keyedCalls_of_listing hturns),
      ⟨none, ⟨.list settings.storage.folder, .error failure⟩⟩, ?_, rfl⟩
    rw [List.reduceOption_append, hturns]
    exact List.mem_append_left _
      (List.mem_map_of_mem (List.mem_append_right _ (List.mem_singleton_self _)))
  | work hstep =>
    obtain ⟨keys, htold, hshift⟩ := h
    cases hstep with
    | @move _ _ _ _ _ turn hmove =>
      rw [Option.map_map]
      exact ⟨keys, (listings_keyed asked _ turn).trans htold, hshift.move hmove⟩
    | settle front back queue key result hmore =>
      exact ⟨keys, (listings_silent asked).trans htold, hshift.settle hmore⟩
  | worked hstep =>
    generalize hnone : none = turn at hstep
    cases hstep with
    | stop front back queue key result hstop =>
      obtain ⟨keys, htold, hshift⟩ := h
      obtain ⟨failure, rfl, hstopped⟩ := hshift.stop htold hstop
      exact .inr ⟨keys, hstopped⟩
    | finish tally =>
      obtain ⟨keys, htold, hshift⟩ := h
      exact ⟨keys, hshift.finish htold⟩
  | close | closed => exact hopen.elim

theorem path {labels : List (Option Asked)} (h : StageAccounted settings asked stage)
    (hpath : Path (Stage.Sending settings) stage labels next) :
    StageAccounted settings (asked ++ labels) next := by
  induction hpath generalizing asked with
  | nil => exact (List.append_nil asked).symm ▸ h
  | @cons _ _ _ label labels hstep _ ih =>
    exact List.append_cons asked label labels ▸ ih (h.step hstep)

end StageAccounted

/-- The accounts of a run, whatever its collaborators answer and however its members interleave. If
    it succeeds, every object of its listing has been visited once, and the outcomes make the
    summary within the budget. If it fails, the listing or the last of its visits has failed with an
    answer, or the budget is overdrawn by one. No other failure speaks of the budget, unless a
    collaborator has answered with it. A single worker visits the objects in the order of the
    listing, and none after the one with which the run fails. -/
theorem accounts_of_sending {settings : Settings} {asked : List (Option Asked)}
    {run : Except Failure Summary}
    (hpath : Path (Stage.Sending settings) (.first settings) asked (.ofRun settings run)) :
    (∀ summary, run = .ok summary → ∃ keys visits, Balanced settings asked summary keys visits ∧
      (settings.handling.workers ≤ 1 → OneByOne (encryptedKeys keys) asked visits [])) ∧
    (∀ failure, run = .error failure → Unlisted asked failure ∨
      ∃ keys collected last opened waiting,
        Stopped settings asked failure keys collected last opened waiting ∧
        (settings.handling.workers ≤ 1 →
          OneByOne (encryptedKeys keys) asked (collected ++ [last]) waiting)) ∧
    ∀ failure, run = .error failure → failure.kind = .skipBudget →
      (∀ answered, Answered asked answered → answered.kind ≠ .skipBudget) →
      ∃ keys collected last opened waiting,
        Stopped settings asked failure keys collected last opened waiting ∧
        Overdrawn settings.handling.skipLimit (collected ++ [last]) failure := by
  have hstage := (StageAccounted.first settings).path hpath
  refine ⟨?_, ?_, ?_⟩
  · rintro summary rfl
    obtain ⟨keys, visits, hbalanced⟩ := hstage
    exact ⟨keys, visits, hbalanced, hbalanced.rounds.oneByOne⟩
  · rintro failure rfl
    obtain hunlisted | ⟨keys, collected, last, opened, waiting, hstopped⟩ := hstage
    · exact .inl hunlisted
    · refine .inr ⟨keys, collected, last, opened, waiting, hstopped, fun hsingle => ?_⟩
      obtain rfl := hstopped.alone hsingle
      exact hstopped.rounds.oneByOne hsingle
  · rintro failure rfl hkind hanswers
    obtain hunlisted | ⟨keys, collected, last, opened, waiting, hstopped⟩ := hstage
    · exact absurd hkind (hanswers failure hunlisted.cause)
    · obtain ⟨-, hanswered⟩ | ⟨-, hoverdrawn⟩ := hstopped.cause
      · exact absurd hkind (hanswers failure hanswered)
      · exact ⟨keys, collected, last, opened, waiting, hstopped, hoverdrawn⟩

namespace Sample

/-- The topic of the first object is blocked, and no object may be rejected. -/
def strict : Settings :=
  { settings with handling := { settings.handling with blockedTopics := ["db.core.thing"] } }

/-- The second object of the listing, behind the one that is rejected. -/
def other : String := "exp/job/db.core.other-000001.txt.gz.enc"

/-- The keys in the folder, of which one is not that of an encrypted object. -/
def mixed : List String := [key, "exp/job/manifest.json", other]

/-- The calls of a run that ends with its first object. -/
def strictCalls : List (Option Asked) :=
  [some ⟨none, ⟨.list strict.storage.folder, .ok mixed⟩⟩, none,
    some ⟨some key, ⟨.contains (Item.markerKey strict key), .ok false⟩⟩, none]

/-- The first object is rejected, and the budget is overdrawn. -/
theorem path_strict : Path (Stage.Sending strict) (.first strict) strictCalls
    (.ofRun strict (.error ⟨.skipBudget, .tooManyRejected 1 0⟩)) := by
  have hcandidates : candidates mixed = [key, other] := by decide +kernel
  have htopic : Topic.resolve strict.handling.blockedTopics (plainName (fileName key)) =
      .error ⟨.blockedTopic, .topicBlocked "db.core.thing"⟩ := by decide +kernel
  have hprocess : (Item.process strict key).run =
      .ask (.contains (Item.markerKey strict key)) fun
        | .ok true => .done (.ok .skipped)
        | .ok false => .done (.ok (.rejected ⟨.blockedTopic, .topicBlocked "db.core.thing"⟩))
        | .error failure => .done (.error failure) := by
    unfold Item.process
    rw [Item.deliverOrReject_of_refused htopic]
    refine congrArg (Program.ask _) (funext fun answer => ?_)
    obtain failure | (_ | _) := answer <;> rfl
  have hlist : (retry strict.retries.objectStore (Call.list strict.storage.folder).errand).run.Step
      (some ⟨.list strict.storage.folder, .ok mixed⟩) (.done (.ok mixed)) := .ask _ _ _
  have hlook : (Item.process strict key).run.Step
      (some ⟨.contains (Item.markerKey strict key), .ok false⟩)
      (.done (.ok (.rejected ⟨.blockedTopic, .topicBlocked "db.core.thing"⟩))) := by
    rw [hprocess]
    exact .ask _ _ _
  have hkeys : Stage.ofKeys strict (candidates mixed) =
      .working ⟨[] ++ (key, (Item.process strict key).run) :: [],
        [(other, (Item.process strict other).run)], .start 2⟩ := by
    rw [hcandidates]
    rfl
  refine .cons ⟨trivial, .list hlist⟩ (.cons ⟨trivial, .listed mixed⟩ ?_)
  rw [hkeys]
  exact .cons ⟨trivial, .work (.move (.mk [] [] key hlook))⟩
    (.cons ⟨trivial, .worked (.stop [] [] _ key _ rfl)⟩ (.nil _))

end Sample

theorem accounts_of_sending_strict :
    Path (Stage.Sending Sample.strict) (.first Sample.strict) Sample.strictCalls
        (.ofRun Sample.strict (.error ⟨.skipBudget, .tooManyRejected 1 0⟩)) ∧
      (∀ failure, ¬ Answered Sample.strictCalls failure) ∧
      ∃ keys collected last opened waiting,
        Stopped Sample.strict Sample.strictCalls ⟨.skipBudget, .tooManyRejected 1 0⟩ keys collected
          last opened waiting ∧
        Overdrawn 0 (collected ++ [last]) ⟨.skipBudget, .tooManyRejected 1 0⟩ := by
  have hanswers (failure : Failure) : ¬ Answered Sample.strictCalls failure := by
    rintro ⟨ask, hask, hfailure⟩
    have hasked : ∀ ask ∈ Sample.strictCalls.reduceOption, ask.turn.failure? = none := by
      simp [Sample.strictCalls, List.reduceOption, Turn.failure?]
    cases (hasked ask hask).symm.trans hfailure
  exact ⟨Sample.path_strict, hanswers,
    (accounts_of_sending Sample.path_strict).2.2 _ rfl rfl fun failure hanswered =>
      absurd hanswered (hanswers failure)⟩

end Courier

import Courier.Proofs.Run.Steady

/-!
The result of a run without faults. It is known from the start of the run: if every object has an
outcome, and the rejected ones are within the budget, then the run succeeds with the summary that
counts these outcomes, whatever order the members of the shift keep; if not, it fails.
-/

namespace Courier

open Memory Program

/-- The object has an outcome of some sort. -/
def Settings.fated (settings : Settings) (start : World) (sort : ItemOutcome → Bool)
    (key : String) : Bool :=
  match settings.fate start key with
  | some (.ok outcome) => sort outcome
  | _ => false

/-- The summary of a run without faults. -/
def Settings.forecast (settings : Settings) (start : World) : Summary where
  listed := (settings.todo start).length
  skipped := (settings.todo start).countP (settings.fated start (· = .skipped))
  delivered := (settings.todo start).countP (settings.fated start (· = .delivered))
  rejected := (settings.todo start).countP (settings.fated start ItemOutcome.isRejected)

/-- Every object of a run without faults has an outcome, and the rejected ones are within the
    budget. -/
structure Settings.Viable (settings : Settings) (start : World) : Prop where
  outcomes : ∀ key ∈ settings.todo start, ∃ outcome, settings.fate start key = some (.ok outcome)
  budget : (settings.forecast start).rejected ≤ settings.handling.skipLimit

/-- What holds at the end of a run without faults: its calls are its script, in some order, and the
    collaborators reflect them. -/
structure Settings.Completed (settings : Settings) (start : World) (calls : List (String × Call))
    (world : World) : Prop where
  script : calls.Perm (settings.script start)
  reflects : start.Reflects (.list settings.storage.folder :: calls.map Prod.snd) world

/-- Runs that have completed leave the same behind. -/
theorem Settings.Completed.sameSince {settings : Settings} {start world world' : World}
    {calls calls' : List (String × Call)} (h : settings.Completed start calls world)
    (h' : settings.Completed start calls' world') : start.SameSince world world' :=
  h.reflects.sameSince h'.reflects (((h.script.trans h'.script.symm).map Prod.snd).cons _)

section Settled

variable {settings : Settings} {start world : World} {calls : List (String × Call)}
  {settled : List (String × ItemOutcome)}

theorem countP_settled (h : ∀ entry ∈ settled, settings.fate start entry.1 = some (.ok entry.2))
    (sort : ItemOutcome → Bool) :
    (settled.map Prod.snd).countP sort =
      (settled.map Prod.fst).countP (settings.fated start sort) := by
  rw [List.countP_map, List.countP_map]
  refine List.countP_congr fun entry hentry => ?_
  simp only [Function.comp_apply, Settings.fated, h entry hentry]

namespace Steady

/-- When nothing is left to do, the run has made all its calls, and its tally is as forecast. -/
theorem finish {tally : Summary}
    (h : Steady settings start calls settled world ⟨[], [], tally⟩) :
    tally = settings.forecast start ∧ settings.Viable start ∧
      settings.Completed start calls world := by
  have hkeys := h.tallies.perm_of_nil
  have hcount (sort : ItemOutcome → Bool) : (settled.map Prod.snd).countP sort =
      (settings.todo start).countP (settings.fated start sort) :=
    (countP_settled h.settled sort).trans (hkeys.countP_eq _)
  have htally : tally = settings.forecast start := by
    obtain rfl : tally = _ := h.tallies.tally
    simp only [Summary.ofOutcomes, Settings.forecast, hcount]
  refine ⟨htally, ⟨fun key hkey => ?_, ?_⟩, ?_, h.reflects⟩
  · obtain ⟨entry, hentry, rfl⟩ := List.mem_map.1 (hkeys.mem_iff.2 hkey)
    exact ⟨entry.2, h.settled entry hentry⟩
  · exact Nat.le_trans (Nat.le_of_eq (hcount ItemOutcome.isRejected).symm) h.tallies.budget
  · have hscript := h.script
    rwa [List.append_nil, scripts, List.flatMap_nil, List.append_nil] at hscript

variable {front back queue : Lanes} {key : String} {tally : Summary}

/-- A run that ends early is not viable. -/
theorem not_viable_of_stop {result : Except Failure ItemOutcome} {run : Except Failure Summary}
    (h : Steady settings start calls settled world
      ⟨front ++ (key, .done result) :: back, queue, tally⟩)
    (hstop : Summary.add settings.handling.skipLimit tally result = .stop run) :
    ¬ settings.Viable start := by
  intro hviable
  have hlane : (key, .done result) ∈ front ++ (key, .done result) :: back ++ queue :=
    mem_lanes_iff.2 (.inl rfl)
  obtain ⟨outcome, houtcome⟩ := hviable.outcomes key (h.tallies.mem_keys hlane)
  obtain rfl : result = .ok outcome := Option.some.inj ((h.lanes _ hlane).verdict.trans houtcome)
  have hsettled : ∀ entry ∈ (key, outcome) :: settled,
      settings.fate start entry.1 = some (.ok entry.2) := by
    rintro entry (_ | ⟨_, hentry⟩)
    · exact houtcome
    · exact h.settled entry hentry
  have hbudget : (outcome :: settled.map Prod.snd).countP ItemOutcome.isRejected ≤
      settings.handling.skipLimit := by
    have hless : (key :: settled.map Prod.fst).countP
        (settings.fated start ItemOutcome.isRejected) ≤ (settings.forecast start).rejected := by
      refine Nat.le_trans ?_ (Nat.le_of_eq (h.tallies.perm_cons.countP_eq _))
      rw [← List.cons_append, List.countP_append]
      exact Nat.le_add_right _ _
    have hcount := countP_settled hsettled ItemOutcome.isRejected
    exact Nat.le_trans (Nat.le_of_eq hcount) (Nat.le_trans hless hviable.budget)
  obtain rfl : tally = _ := h.tallies.tally
  rw [Summary.add_ofOutcomes hbudget] at hstop
  cases hstop

/-- An object whose work comes to a halt has no outcome. -/
theorem not_viable_of_halt
    (h : Steady settings start calls settled world ⟨front ++ (key, .halt) :: back, queue, tally⟩) :
    ¬ settings.Viable start := by
  intro hviable
  have hlane : (key, .halt) ∈ front ++ (key, .halt) :: back ++ queue :=
    mem_lanes_iff.2 (.inl rfl)
  obtain ⟨outcome, houtcome⟩ := hviable.outcomes key (h.tallies.mem_keys hlane)
  cases (h.lanes _ hlane).verdict.trans houtcome

end Steady

end Settled

/-- The call that a step of a run makes for an object. -/
def callOf (label : Option Asked) : Option (String × Call) :=
  label.bind fun ask => ask.key?.map (·, ask.turn.op)

/-- What holds of a run without faults at any stage up to its closing. -/
inductive StageSteady (settings : Settings) (start : World) :
    List (String × Call) → World × Stage → Prop
  | listing {world : World} (hreflects : start.Reflects [] world)
    (hobjects : world.objects = start.objects) :
    StageSteady settings start [] (world, .first settings)
  | listed {world : World} (hreflects : start.Reflects [.list settings.storage.folder] world) :
    StageSteady settings start []
      (world, .listing (.done (.ok (start.keys.filter (Text.startsWith settings.storage.folder)))))
  | working {calls : List (String × Call)} {settled : List (String × ItemOutcome)} {world : World}
    {shift : Shift String Call.Answer (Except Failure ItemOutcome) Summary}
    (hsteady : Steady settings start calls settled world shift) :
    StageSteady settings start calls (world, .working shift)
  | succeeded {calls : List (String × Call)} {world : World} (hviable : settings.Viable start)
    (hcompleted : settings.Completed start calls world) :
    StageSteady settings start calls (world, .ofRun settings (.ok (settings.forecast start)))
  | failed {calls : List (String × Call)} {world : World} (failure : Failure)
    (hviable : ¬ settings.Viable start) :
    StageSteady settings start calls (world, .ofRun settings (.error failure))

theorem exists_retryFrom_eq (delay : Nat → Option Nat) (again : Failure → Bool) (call : Call)
    (left attempt : Nat) : ∃ next : call.Answer → Program Call.Answer call.Answer,
      retryFrom delay again call.errand.run left attempt = .ask call next ∧
        ∀ value, next (.ok value) = .done (.ok value) := by
  cases left with
  | zero => exact ⟨.done, rfl, fun _ => rfl⟩
  | succ left => exact ⟨_, rfl, fun _ => rfl⟩

/-- A call that is tried again if it fails begins with one attempt. -/
theorem exists_retry_eq (policy : RetryPolicy) (call : Call) :
    ∃ next : call.Answer → Program Call.Answer call.Answer,
      (retry policy call.errand).run = .ask call next ∧
        ∀ value, next (.ok value) = .done (.ok value) :=
  exists_retryFrom_eq policy.delayAfter? (fun _ => true) call (policy.attempts - 1) 1

namespace StageSteady

variable {settings : Settings} {start world : World} {calls : List (String × Call)}

theorem listing_cases {program : Program Call.Answer (Except Failure (List String))}
    (h : StageSteady settings start calls (world, .listing program)) :
    (program = (retry settings.retries.objectStore
        (Call.list settings.storage.folder).errand).run ∧ calls = [] ∧ start.Reflects [] world ∧
          world.objects = start.objects) ∨
      (program = .done (.ok (start.keys.filter (Text.startsWith settings.storage.folder))) ∧
        calls = [] ∧ start.Reflects [.list settings.storage.folder] world) := by
  generalize hstate : (world, Stage.listing program) = state at h
  cases h with
  | listing hreflects hobjects =>
    cases hstate
    exact .inl ⟨rfl, rfl, hreflects, hobjects⟩
  | listed hreflects =>
    cases hstate
    exact .inr ⟨rfl, rfl, hreflects⟩
  | working | succeeded | failed => cases hstate

/-- What the listing has come to. -/
theorem of_listed {result : Except Failure (List String)}
    (h : StageSteady settings start calls (world, .listing (.done result))) :
    result = .ok (start.keys.filter (Text.startsWith settings.storage.folder)) ∧ calls = [] ∧
      start.Reflects [.list settings.storage.folder] world := by
  obtain ⟨hfirst, -⟩ | ⟨hresult, hcalls, hreflects⟩ := h.listing_cases
  · obtain ⟨next, hnext, -⟩ := exists_retry_eq settings.retries.objectStore
      (.list settings.storage.folder)
    cases hfirst.trans hnext
  · cases hresult
    exact ⟨rfl, hcalls, hreflects⟩

theorem not_halt (h : StageSteady settings start calls (world, .listing .halt)) : False := by
  obtain ⟨hfirst, -⟩ | ⟨hresult, -⟩ := h.listing_cases
  · obtain ⟨next, hnext, -⟩ := exists_retry_eq settings.retries.objectStore
      (.list settings.storage.folder)
    cases hfirst.trans hnext
  · cases hresult

theorem exists_steady {shift : Shift String Call.Answer (Except Failure ItemOutcome) Summary}
    (h : StageSteady settings start calls (world, .working shift)) :
    ∃ settled, Steady settings start calls settled world shift := by
  generalize hstate : (world, Stage.working shift) = state at h
  cases h with
  | working hsteady =>
    cases hstate
    exact ⟨_, hsteady⟩
  | listing | listed | succeeded | failed => cases hstate

/-- A run has listed its objects and begins to work on them. -/
theorem ofKeys (hreflects : start.Reflects [.list settings.storage.folder] world) :
    StageSteady settings start [] (world, .ofKeys settings (settings.todo start)) := by
  refine .working ⟨.start settings _ _, hreflects, fun lane hlane => ?_, ?_,
    fun _ hentry => absurd hentry List.not_mem_nil⟩
  · rw [Shift.start, List.take_append_drop] at hlane
    obtain ⟨key, hkey, rfl⟩ := List.mem_map.1 hlane
    refine (OnScript.of_process settings start key).congr ?_
    rw [Settings.hasMarker, Settings.hasMarker, hreflects.unwritten]
    rintro call (_ | ⟨_, hnil⟩) hplace
    · cases hplace
    · cases hnil
  · rw [Shift.start, List.take_append_drop]
    exact .refl _

/-- The listing is told the objects of the run. -/
theorem ask_first {rest : Program Call.Answer (Except Failure (List String))} {call : Call}
    (hreflects : start.Reflects [] world) (hobjects : world.objects = start.objects)
    (hstep : (retry settings.retries.objectStore
      (Call.list settings.storage.folder).errand).run.Step
        (some ⟨call, (world.answer call).1⟩) rest) :
    StageSteady settings start [] ((world.answer call).2, .listing rest) := by
  obtain ⟨next, hprogram, hnext⟩ := exists_retry_eq settings.retries.objectStore
    (.list settings.storage.folder)
  rw [hprogram] at hstep
  generalize hturn : some (Turn.mk call (world.answer call).1) = turn at hstep
  cases hstep with
  | ask op next' answer =>
    cases hturn
    have hanswer : (world.answer (.list settings.storage.folder)).1 =
        .ok (start.keys.filter (Text.startsWith settings.storage.folder)) := by
      rw [hreflects.faultFree.result, World.perform, World.keys, hobjects, ← World.keys]
    have hrest : next (world.answer (.list settings.storage.folder)).1 =
        .done (.ok (start.keys.filter (Text.startsWith settings.storage.folder))) :=
      (congrArg next hanswer).trans (hnext _)
    rw [hrest]
    exact .listed (hreflects.answer_quiet rfl)

/-- A call keeps a run without faults on its way. -/
theorem ask {stage stage' : Stage} {key? : Option String} {call : Call}
    (h : StageSteady settings start calls (world, stage)) (hseparate : settings.Separate start)
    (hstep : stage.Step settings (some ⟨key?, ⟨call, (world.answer call).1⟩⟩) stage')
    (hsending : stage.IsSending) :
    StageSteady settings start (calls ++ (key?.map (·, call)).toList)
      ((world.answer call).2, stage') := by
  obtain ⟨program, rest, rfl, rfl, rfl, hturn⟩ | ⟨key, crew, crew', queue, tally, rfl, rfl, rfl,
    hmove⟩ | ⟨run, program, rest, rfl, -⟩ := hstep.ask_cases
  · obtain ⟨rfl, rfl, hreflects, hobjects⟩ | ⟨rfl, -⟩ := h.listing_cases
    · exact ask_first hreflects hobjects hturn
    · cases hturn
  · obtain ⟨settled, hsteady⟩ := h.exists_steady
    generalize hturn : some (Turn.mk call (world.answer call).1) = turn at hmove
    cases hmove with
    | mk front back member hprogram =>
      subst hturn
      exact .working (hsteady.ask hseparate hprogram)
  · exact hsending.elim

/-- A step without a call does so as well. -/
theorem silent {stage stage' : Stage} (h : StageSteady settings start calls (world, stage))
    (hstep : stage.Step settings none stage') (hsending : stage.IsSending) :
    StageSteady settings start calls (world, stage') := by
  generalize hlabel : none = label at hstep
  cases hstep with
  | list hprogram =>
    obtain rfl := Option.map_eq_none_iff.1 hlabel.symm
    obtain ⟨rfl, -⟩ | ⟨rfl, -⟩ := h.listing_cases
    · obtain ⟨next, hnext, -⟩ := exists_retry_eq settings.retries.objectStore
        (.list settings.storage.folder)
      rw [hnext] at hprogram
      cases hprogram
    · cases hprogram
  | listed keys =>
    obtain ⟨hkeys, rfl, hreflects⟩ := h.of_listed
    cases hkeys
    exact ofKeys hreflects
  | unlisted failure =>
    obtain ⟨hkeys, -⟩ := h.of_listed
    cases hkeys
  | work hshift =>
    obtain rfl := Option.map_eq_none_iff.1 hlabel.symm
    obtain ⟨settled, hsteady⟩ := h.exists_steady
    generalize hturn : none = turn at hshift
    cases hshift with
    | move hmove =>
      obtain rfl := Option.map_eq_none_iff.1 hturn.symm
      cases hmove with
      | mk front back member hprogram => exact .working (hsteady.wait hprogram)
    | settle front back queue key result hmore =>
      obtain ⟨outcome, rfl, hsettled⟩ := hsteady.settle hmore
      exact .working hsettled
  | worked hshift =>
    obtain ⟨settled, hsteady⟩ := h.exists_steady
    generalize none = turn at hshift
    cases hshift with
    | stop front back queue key result hstop =>
      obtain ⟨failure, rfl⟩ := Summary.error_of_add_eq_stop hstop
      exact .failed failure (hsteady.not_viable_of_stop hstop)
    | finish tally =>
      obtain ⟨rfl, hviable, hcompleted⟩ := hsteady.finish
      exact .succeeded hviable hcompleted
  | close | closed => exact hsending.elim

theorem pass {state : World × Stage} (h : StageSteady settings start calls state) (nanos : Nat) :
    StageSteady settings start calls (state.1.pass nanos, state.2) := by
  cases h with
  | listing hreflects hobjects => exact .listing (hreflects.pass nanos) hobjects
  | listed hreflects => exact .listed (hreflects.pass nanos)
  | working hsteady => exact .working (hsteady.pass nanos)
  | succeeded hviable hcompleted =>
    exact .succeeded hviable ⟨hcompleted.script, hcompleted.reflects.pass nanos⟩
  | failed failure hviable => exact .failed failure hviable

/-- Every step up to the closing keeps a run without faults on its way. -/
theorem next {state next : World × Stage} {label : Option Asked}
    (h : StageSteady settings start calls state) (hseparate : settings.Separate start)
    (hstep : Stage.Sends settings state label next) :
    StageSteady settings start (calls ++ (callOf label).toList) next := by
  obtain ⟨hsending, hgoes⟩ := hstep
  cases hgoes with
  | ask nanos key? call hstep => exact (h.pass nanos).ask hseparate hstep hsending
  | silent nanos hstep =>
    rw [callOf, Option.bind_none, Option.toList_none, List.append_nil]
    exact (h.pass nanos).silent hstep hsending

theorem path {state last : World × Stage} {labels : List (Option Asked)}
    (h : StageSteady settings start calls state) (hseparate : settings.Separate start)
    (hpath : Path (Stage.Sends settings) state labels last) :
    StageSteady settings start (calls ++ labels.filterMap callOf) last := by
  induction hpath generalizing calls with
  | nil =>
    rw [List.filterMap_nil, List.append_nil]
    exact h
  | @cons _ _ _ label labels hstep _ ih =>
    have hlabels : (label :: labels).filterMap callOf =
        (callOf label).toList ++ labels.filterMap callOf := by
      cases hcall : callOf label <;> simp [hcall]
    rw [hlabels, ← List.append_assoc]
    exact ih (h.next hseparate hstep)

theorem result_cases {run : Except Failure Summary}
    (h : StageSteady settings start calls (world, .ofRun settings run)) :
    (run = .ok (settings.forecast start) ∧ settings.Viable start ∧
        settings.Completed start calls world) ∨
      (∃ failure, run = .error failure) ∧ ¬ settings.Viable start := by
  generalize hstate : (world, Stage.ofRun settings run) = state at h
  cases h with
  | succeeded hviable hcompleted =>
    cases hstate
    exact .inl ⟨rfl, hviable, hcompleted⟩
  | failed failure hviable =>
    cases hstate
    exact .inr ⟨⟨failure, rfl⟩, hviable⟩
  | listing | listed | working => cases hstate

end StageSteady

section Result

variable {settings : Settings} {start world : World} {calls : List (String × Call)}

/-- The result of a run without faults is known from its start. -/
theorem result_of_sends (hfree : start.FaultFree) (hseparate : settings.Separate start)
    {labels : List (Option Asked)} {run : Except Failure Summary}
    (hpath : Path (Stage.Sends settings) (start, .first settings) labels
      (world, .ofRun settings run)) :
    (run = .ok (settings.forecast start) ∧ settings.Viable start ∧
        settings.Completed start (labels.filterMap callOf) world) ∨
      (∃ failure, run = .error failure) ∧ ¬ settings.Viable start :=
  ((StageSteady.listing (.refl hfree) rfl).path hseparate hpath).result_cases

/-- A run without faults has come to its end, and has succeeded. -/
def Settings.Succeeded (settings : Settings) (start : World) (state : World × Stage) : Prop :=
  state.2 = .ofRun settings (.ok (settings.forecast start)) ∧
    ∃ calls, settings.Completed start calls state.1

/-- The programs that a shift has not done yet. -/
def Stage.unfinished : Stage → List (Program Call.Answer (Except Failure ItemOutcome))
  | .working shift => (shift.crew ++ shift.queue).map Prod.snd
  | _ => []

/-- The work of a shift becomes less with every step. -/
theorem Stage.Step.lessens {label : Option Asked}
    {shift shift' : Shift String Call.Answer (Except Failure ItemOutcome) Summary}
    (h : (Stage.working shift).Step settings label (.working shift')) :
    Lessens Program.Child (Stage.working shift').unfinished (Stage.working shift).unfinished := by
  cases h with
  | work hshift =>
    cases hshift with
    | @move _ _ queue _ _ _ hmove =>
      cases hmove with
      | mk front back member hprogram =>
        exact .replace _ _ ((front ++ back ++ queue).map Prod.snd) hprogram.child
          ((lanes_perm front back queue _).map Prod.snd)
          ((lanes_perm front back queue _).map Prod.snd)
    | settle front back queue key result hmore =>
      refine .drop _ ((front ++ back ++ queue).map Prod.snd)
        ((lanes_perm front back queue _).map Prod.snd) (.of_eq ?_)
      rw [Stage.unfinished, lanes_taken]

/-- A shift can go on as long as it is at work. -/
theorem exists_sends {shift : Shift String Call.Answer (Except Failure ItemOutcome) Summary}
    (h : StageSteady settings start calls (world, .working shift))
    (hviable : settings.Viable start) :
    ∃ label next, Stage.Sends settings (world, .working shift) label next := by
  obtain ⟨settled, hsteady⟩ := h.exists_steady
  obtain ⟨crew, queue, tally⟩ := shift
  cases crew with
  | nil =>
    obtain rfl : queue = [] := hsteady.tallies.busy rfl
    exact ⟨none, _, trivial, .silent 0 (.worked (.finish tally))⟩
  | cons lane others =>
    obtain ⟨key, program⟩ := lane
    cases program with
    | done result =>
      cases hadd : Summary.add settings.handling.skipLimit tally result with
      | more tally' => exact ⟨none, _, trivial, .silent 0 (.work (.settle [] others _ key _ hadd))⟩
      | stop run => exact ⟨none, _, trivial, .silent 0 (.worked (.stop [] others _ key _ hadd))⟩
    | ask call next =>
      exact ⟨_, _, trivial,
        .ask 0 (some key) call (.work (.move (.mk [] others key (.ask call next _))))⟩
    | wait nanos next =>
      exact ⟨_, _, trivial, .silent 0 (.work (.move (.mk [] others key (.wait nanos next))))⟩
    | halt =>
      have hhalted : Steady settings start calls settled world
        ⟨[] ++ (key, .halt) :: others, queue, tally⟩ := hsteady
      exact absurd hviable hhalted.not_viable_of_halt

theorem inevitable_of_working (hseparate : settings.Separate start)
    (hviable : settings.Viable start)
    {shift : Shift String Call.Answer (Except Failure ItemOutcome) Summary}
    (h : StageSteady settings start calls (world, .working shift)) :
    Inevitable (Stage.Sends settings) (settings.Succeeded start) (world, .working shift) := by
  let closer (next state : World × Stage) : Prop :=
    Lessens Program.Child next.2.unfinished state.2.unfinished
  have hcloser : WellFounded closer :=
    InvImage.wf _ (Lessens.wellFounded Program.wellFounded_child)
  let holds (state : World × Stage) : Prop :=
    ∃ calls shift, state.2 = .working shift ∧ StageSteady settings start calls state
  have hopen (state : World × Stage) (hstate : holds state) :
      ∃ label next, Stage.Sends settings state label next := by
    obtain ⟨world, stage⟩ := state
    obtain ⟨calls, shift, rfl, hsteady⟩ := hstate
    exact exists_sends hsteady hviable
  refine Inevitable.of_wellFounded hcloser hopen (fun state label next hstate hsends => ?_)
    ⟨calls, shift, rfl, h⟩
  obtain ⟨world, stage⟩ := state
  obtain ⟨calls, shift, rfl, hsteady⟩ := hstate
  have hstep := hsends.step
  have hnext := hsteady.next hseparate hsends
  generalize calls ++ (callOf label).toList = calls' at hnext
  cases hnext with
  | listing | listed => cases hstep
  | working hworking => exact .inr ⟨⟨_, _, rfl, .working hworking⟩, hstep.lessens⟩
  | succeeded _ hcompleted => exact .inl ⟨rfl, _, hcompleted⟩
  | failed failure hnot => exact absurd hviable hnot

theorem inevitable_of_listing (hseparate : settings.Separate start)
    (hviable : settings.Viable start)
    {program : Program Call.Answer (Except Failure (List String))}
    (h : StageSteady settings start calls (world, .listing program)) :
    Inevitable (Stage.Sends settings) (settings.Succeeded start) (world, .listing program) := by
  induction program generalizing world calls with
  | done result =>
    obtain ⟨rfl, -⟩ := h.of_listed
    refine .ahead ⟨none, _, trivial, .silent 0 (.listed _)⟩ fun label next hsends => ?_
    obtain ⟨world', stage'⟩ := next
    have hnext := h.next hseparate hsends
    cases hsends.step with
    | list hprogram => cases hprogram
    | listed keys => exact inevitable_of_working hseparate hviable hnext
  | ask call rest ih =>
    refine .ahead ⟨_, _, trivial, .ask 0 none call (.list (.ask call rest _))⟩
      fun label next hsends => ?_
    obtain ⟨world', stage'⟩ := next
    have hnext := h.next hseparate hsends
    cases hsends.step with
    | list hprogram =>
      cases hprogram with
      | ask _ _ answer => exact ih answer hnext
  | wait nanos rest ih =>
    refine .ahead ⟨_, _, trivial, .silent 0 (.list (.wait nanos rest))⟩ fun label next hsends => ?_
    obtain ⟨world', stage'⟩ := next
    have hnext := h.next hseparate hsends
    cases hsends.step with
    | list hprogram =>
      cases hprogram with
      | wait => exact ih hnext
  | halt => exact h.not_halt.elim

/-- In whatever order the members of the shift go on, a viable run without faults succeeds. -/
theorem inevitable_of_viable (hfree : start.FaultFree) (hseparate : settings.Separate start)
    (hviable : settings.Viable start) :
    Inevitable (Stage.Sends settings) (settings.Succeeded start) (start, .first settings) :=
  inevitable_of_listing hseparate hviable (.listing (.refl hfree) rfl)

/-- A schedule of a viable run does not halt. -/
theorem isSome_of_schedule (hseparate : settings.Separate start) (hviable : settings.Viable start)
    {program : Program Call.Answer (Except Failure Summary)}
    {shift : Shift String Call.Answer (Except Failure ItemOutcome) Summary}
    (hschedule : Schedule (Summary.add settings.handling.skipLimit) Except.ok program shift)
    {settled : List (String × ItemOutcome)}
    (h : Steady settings start calls settled world shift) :
    (program.run World.answer World.pass world).1.isSome := by
  induction hschedule generalizing calls settled world with
  | ask front back queue member _ ih => exact ih _ (h.ask hseparate (.ask _ _ _))
  | pass _ ih => exact ih (h.pass _)
  | silent hstep _ ih =>
    generalize hturn : none = turn at hstep
    generalize hnext : Sum.inl _ = next at hstep
    cases hstep with
    | move hmove =>
      obtain rfl := Option.map_eq_none_iff.1 hturn.symm
      cases hnext
      cases hmove with
      | mk front back member hprogram => exact ih (h.wait hprogram)
    | settle front back queue key result hmore =>
      cases hnext
      obtain ⟨outcome, rfl, hsettled⟩ := h.settle hmore
      exact ih hsettled
    | stop | finish => cases hnext
  | ended => rfl
  | halt => exact absurd hviable h.not_viable_of_halt

/-- So it does as it is carried out by the clock. -/
theorem run_of_viable (hfree : start.FaultFree) (hseparate : settings.Separate start)
    (hviable : settings.Viable start) :
    ∃ after calls, World.run (sendAll settings) start =
        (some (.ok (settings.forecast start)), after) ∧
      settings.Completed start calls after := by
  have hlist : Succeeds (retry settings.retries.objectStore
      (Call.list settings.storage.folder).errand) start
      (start.keys.filter (Text.startsWith settings.storage.folder))
      (start.answer (.list settings.storage.folder)).2 :=
    (Succeeds.call (hfree.result _)).retry _
  have hparts : World.run (sendAll settings) start =
      World.run (sendObjects settings (settings.todo start))
        (start.answer (.list settings.storage.folder)).2 := run_bind_of_eq hlist
  have hlisted : StageSteady settings start []
      ((start.answer (.list settings.storage.folder)).2, .ofKeys settings (settings.todo start)) :=
    .ofKeys ((World.Reflects.refl hfree).answer_quiet rfl)
  obtain ⟨settled, hsteady⟩ := hlisted.exists_steady
  obtain ⟨run, hrun⟩ := Option.isSome_iff_exists.1
    (isSome_of_schedule hseparate hviable (Stage.schedule_of_sendObjects settings _) hsteady)
  have hresult : (World.run (sendAll settings) start).1 = some run := by
    rw [hparts]
    exact hrun
  obtain ⟨labels, hpath⟩ := Stage.exists_path_of_sendAll hresult
  obtain ⟨rfl, -, hcompleted⟩ | ⟨-, hnot⟩ := result_of_sends hfree hseparate hpath
  · exact ⟨_, _, Prod.ext hresult rfl, hcompleted⟩
  · exact absurd hviable hnot

end Result

/-- Without faults the objects are listed with a single call. -/
theorem Memory.World.FaultFree.exists_path_listed {world : World} (hfree : world.FaultFree)
    (settings : Settings) :
    ∃ labels, Path (Stage.Sends settings) (world, .first settings) labels
      ((world.answer (.list settings.storage.folder)).2,
        .ofKeys settings (settings.todo world)) := by
  have hlist : Succeeds (retry settings.retries.objectStore
      (Call.list settings.storage.folder).errand) world
      (world.keys.filter (Text.startsWith settings.storage.folder))
      (world.answer (.list settings.storage.folder)).2 :=
    (Succeeds.call (hfree.result _)).retry _
  exact Stage.exists_path_of_list hlist

namespace Settings

/-- A store that lists its objects in order. -/
theorem todo_of_sorted (settings : Settings) {world : World}
    (h : (world.objects.map Prod.fst).Pairwise fun a b => decide (a ≤ b)) :
    settings.todo world = candidates
      ((world.objects.map Prod.fst).filter (Text.startsWith settings.storage.folder)) := by
  rw [todo, World.keys, List.mergeSort_of_pairwise h]

end Settings

namespace Sample

/-- One object of the run may be rejected; and the markers stand before the objects in the order of
    the store. -/
def lenient : Settings :=
  { settings with
    storage := { settings.storage with statusRoot := "done" }
    handling := { settings.handling with skipLimit := 1 } }

/-- The key of an object whose name tells no topic. -/
def garbage : String := "exp/job/garbage.enc"

def mismatch : Failure := ⟨.metadata, .nameMismatch "garbage"⟩

/-- One object of the run can be sent, the other one has to be rejected. -/
def pairWorld : World :=
  { world with
    objects := world.objects.flatMap fun entry => [(key, entry.2), (garbage, entry.2)]
    table := [(("id", "db.core.thing"), ⟨.exported, some 2, none⟩)] }

theorem todo_pairWorld : lenient.todo pairWorld = [key, garbage] :=
  (lenient.todo_of_sorted (by decide +kernel)).trans (by decide +kernel)

theorem markers_pairWorld :
    ((lenient.todo pairWorld).map (Item.markerKey lenient)).Nodup := by
  rw [todo_pairWorld]
  decide +kernel

theorem faultFree_pairWorld : pairWorld.FaultFree := fun _ _ h => nomatch h

theorem fate_key : lenient.fate pairWorld key = some (.ok .delivered) := by decide +kernel

theorem fate_garbage : lenient.fate pairWorld garbage =
    some (.ok (.rejected mismatch)) := by
  decide +kernel

theorem forecast_pairWorld : lenient.forecast pairWorld = ⟨2, 0, 1, 1⟩ := by
  simp [Settings.forecast, todo_pairWorld, Settings.fated, fate_key, fate_garbage]

theorem viable_pairWorld : lenient.Viable pairWorld := by
  refine ⟨fun other hother => ?_, ?_⟩
  · rw [todo_pairWorld, List.mem_pair] at hother
    obtain rfl | rfl := hother
    · exact ⟨_, fate_key⟩
    · exact ⟨_, fate_garbage⟩
  · rw [forecast_pairWorld]
    decide

/-- Once the objects have been listed and the first one has been worked on. -/
def firstDone (settings : Settings) (world : World) : World :=
  (World.run (Item.process settings key) (world.answer (.list settings.storage.folder)).2).2

/-- Once both objects have been worked on. -/
def bothDone (settings : Settings) (world : World) : World :=
  (World.run (Item.process settings garbage) (firstDone settings world)).2

/-- The first object is delivered by what is left of the work on it, and then the other one is
    rejected. -/
theorem exists_path_of_lanes {settings : Settings} {world : World}
    {program : Program Call.Answer (Except Failure ItemOutcome)}
    (hhandling : settings.handling = lenient.handling)
    (hdelivered : (program.run World.answer World.pass world).1 = some (.ok .delivered))
    (hrejected : (World.run (Item.process settings garbage)
      (program.run World.answer World.pass world).2).1 = some (.ok (.rejected mismatch))) :
    ∃ front back,
      Path (Stage.Sends settings)
        (world, .working ⟨[(key, program)], [(garbage, (Item.process settings garbage).run)],
          .start 2⟩) front
        ((program.run World.answer World.pass world).2,
          .working ⟨[(key, .done (.ok .delivered))],
            [(garbage, (Item.process settings garbage).run)], .start 2⟩) ∧
      Path (Stage.Sends settings)
        ((program.run World.answer World.pass world).2,
          .working ⟨[(key, .done (.ok .delivered))],
            [(garbage, (Item.process settings garbage).run)], .start 2⟩) back
        ((World.run (Item.process settings garbage)
          (program.run World.answer World.pass world).2).2,
          .ofRun settings (.ok ⟨2, 0, 1, 1⟩)) := by
  obtain ⟨front, hfront⟩ := Stage.exists_path_of_lane settings [] []
    [(garbage, (Item.process settings garbage).run)] key (.start 2) hdelivered
  obtain ⟨back, hback⟩ :=
    Stage.exists_path_of_lane settings [] [] [] garbage ⟨2, 0, 1, 0⟩ hrejected
  exact ⟨_, _, hfront, .cons
    ⟨trivial, .silent 0 (.work (.settle [] [] _ key _ rfl))⟩ <| hback.append <| .cons
    ⟨trivial, .silent 0 (.work (.settle [] [] [] garbage _ (hhandling ▸ rfl)))⟩ <| .cons
    ⟨trivial, .silent 0 (.worked (.finish _))⟩ (.nil _)⟩

/-- One object is delivered, and then the other one is rejected. -/
theorem exists_path_pair {settings : Settings} {world : World}
    (hhandling : settings.handling = lenient.handling) (hfree : world.FaultFree)
    (htodo : settings.todo world = [key, garbage])
    (hdelivered : (World.run (Item.process settings key)
      (world.answer (.list settings.storage.folder)).2).1 = some (.ok .delivered))
    (hrejected : (World.run (Item.process settings garbage) (firstDone settings world)).1 =
      some (.ok (.rejected mismatch))) :
    ∃ front back,
      Path (Stage.Sends settings) (world, .first settings) front (firstDone settings world,
        .working ⟨[(key, .done (.ok .delivered))],
          [(garbage, (Item.process settings garbage).run)], .start 2⟩) ∧
      Path (Stage.Sends settings) (firstDone settings world,
        .working ⟨[(key, .done (.ok .delivered))],
          [(garbage, (Item.process settings garbage).run)], .start 2⟩) back
        (bothDone settings world, .ofRun settings (.ok ⟨2, 0, 1, 1⟩)) := by
  obtain ⟨listed, hlisted⟩ := hfree.exists_path_listed settings
  have hkeys : Stage.ofKeys settings [key, garbage] =
      .working ⟨[(key, (Item.process settings key).run)],
        [(garbage, (Item.process settings garbage).run)], .start 2⟩ := by
    rw [Stage.ofKeys, hhandling]
    rfl
  rw [htodo, hkeys] at hlisted
  obtain ⟨front, back, hfront, hback⟩ := exists_path_of_lanes hhandling hdelivered hrejected
  exact ⟨_, _, hlisted.append hfront, hback⟩

end Sample

end Courier

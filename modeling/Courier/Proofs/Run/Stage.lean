import Courier.Memory.World
import Courier.Proofs.Program.Schedule
import Courier.Run.Closing

/-!
The stages of a run. A run lists its objects, works on them as a shift and is closed. Its members
interleave in any order, and time passes between its calls. `Stage.exists_path_of_send` says that a
whole run, as it is carried out by the clock, is one of the ways in which it may go.
-/

namespace Courier

open Memory Program

/-- A call of a run with its answer, and the key of the object it is made for, if it is for one. -/
structure Asked where
  key? : Option String
  turn : Turn Call.Answer

/-- The objects of a run, with the work on each. -/
def tasks (settings : Settings) (keys : List String) :
    Crew String Call.Answer (Except Failure ItemOutcome) :=
  keys.map fun key => (key, (Item.process settings key).run)

theorem keys_tasks (settings : Settings) (keys : List String) :
    (tasks settings keys).map Prod.fst = keys := by
  rw [tasks, List.map_map]
  exact List.map_id' keys

/-- How far a run has come. -/
inductive Stage where
  | listing (program : Program Call.Answer (Except Failure (List String)))
  | working (shift : Shift String Call.Answer (Except Failure ItemOutcome) Summary)
  | closing (run : Except Failure Summary) (program : Program Call.Answer (Except Failure Unit))
  | ended (result : Except Failure Summary)

namespace Stage

/-- A run starts by listing the objects of its folder. -/
def first (settings : Settings) : Stage :=
  .listing (retry settings.retries.objectStore (Call.list settings.storage.folder).errand).run

/-- The work on the objects that are sent. -/
def ofKeys (settings : Settings) (keys : List String) : Stage :=
  .working (.start settings.handling.workers (.start keys.length) (tasks settings keys))

/-- The end of a run with the given result. -/
def ofRun (settings : Settings) (run : Except Failure Summary) : Stage :=
  .closing run (Closing.afterRun settings run).run

/-- The steps of a run. -/
inductive Step (settings : Settings) : Stage → Option Asked → Stage → Prop
  | list {program rest : Program Call.Answer (Except Failure (List String))}
    {turn : Option (Turn Call.Answer)} (hstep : program.Step turn rest) :
    Step settings (.listing program) (turn.map (Asked.mk none)) (.listing rest)
  | listed (keys : List String) :
    Step settings (.listing (.done (.ok keys))) none (ofKeys settings (candidates keys))
  | unlisted (failure : Failure) :
    Step settings (.listing (.done (.error failure))) none (ofRun settings (.error failure))
  | work {shift shift' : Shift String Call.Answer (Except Failure ItemOutcome) Summary}
    {turn : Option (String × Turn Call.Answer)}
    (hstep : shift.Step (Summary.add settings.handling.skipLimit) Except.ok turn (.inl shift')) :
    Step settings (.working shift) (turn.map fun (key, turn) => ⟨some key, turn⟩) (.working shift')
  | worked {shift : Shift String Call.Answer (Except Failure ItemOutcome) Summary}
    {run : Except Failure Summary}
    (hstep : shift.Step (Summary.add settings.handling.skipLimit) Except.ok none (.inr run)) :
    Step settings (.working shift) none (ofRun settings run)
  | close {run : Except Failure Summary} {program rest : Program Call.Answer (Except Failure Unit)}
    {turn : Option (Turn Call.Answer)} (hstep : program.Step turn rest) :
    Step settings (.closing run program) (turn.map (Asked.mk none)) (.closing run rest)
  | closed (run : Except Failure Summary) (closing : Except Failure Unit) :
    Step settings (.closing run (.done closing)) none (.ended (Closing.result run closing))

/-- A call is made by the listing, by the work on one of the objects, or by the closing. -/
theorem Step.ask_cases {settings : Settings} {stage stage' : Stage} {ask : Asked}
    (h : stage.Step settings (some ask) stage') :
    (∃ program rest, stage = .listing program ∧ stage' = .listing rest ∧ ask.key? = none ∧
      program.Step (some ask.turn) rest) ∨
    (∃ key crew crew' queue tally, stage = .working ⟨crew, queue, tally⟩ ∧
      stage' = .working ⟨crew', queue, tally⟩ ∧ ask.key? = some key ∧
      crew.Move key (some ask.turn) crew') ∨
    ∃ run program rest, stage = .closing run program ∧ stage' = .closing run rest ∧
      ask.key? = none ∧ program.Step (some ask.turn) rest := by
  generalize hlabel : some ask = label at h
  cases h with
  | list hstep =>
    obtain ⟨turn, rfl, rfl⟩ := Option.map_eq_some_iff.1 hlabel.symm
    exact .inl ⟨_, _, rfl, rfl, rfl, hstep⟩
  | work hstep =>
    obtain ⟨⟨key, turn⟩, rfl, rfl⟩ := Option.map_eq_some_iff.1 hlabel.symm
    generalize hturn : some (key, turn) = label at hstep
    cases hstep with
    | move hmove =>
      obtain ⟨turn', rfl, hpair⟩ := Option.map_eq_some_iff.1 hturn.symm
      cases hpair
      exact .inr (.inl ⟨_, _, _, _, _, rfl, rfl, rfl, hmove⟩)
    | settle => cases hturn
  | close hstep =>
    obtain ⟨turn, rfl, rfl⟩ := Option.map_eq_some_iff.1 hlabel.symm
    exact .inr (.inr ⟨_, _, _, rfl, rfl, rfl, hstep⟩)
  | listed | unlisted | worked | closed => cases hlabel

/-- Without a call a program waits, a stage gives way to the next, or an outcome is added up. -/
theorem Step.silent_cases {settings : Settings} {stage stage' : Stage}
    (h : stage.Step settings none stage') :
    (∃ program rest, stage = .listing program ∧ stage' = .listing rest ∧
      program.Step none rest) ∨
    (∃ keys, stage = .listing (.done (.ok keys)) ∧
      stage' = ofKeys settings (candidates keys)) ∨
    (∃ key crew crew' queue tally, stage = .working ⟨crew, queue, tally⟩ ∧
      stage' = .working ⟨crew', queue, tally⟩ ∧ crew.Move key none crew') ∨
    (∃ front back queue key outcome tally tally',
      stage = .working ⟨front ++ (key, .done outcome) :: back, queue, tally⟩ ∧
      stage' = .working ⟨front ++ back ++ queue.take 1, queue.drop 1, tally'⟩) ∨
    (∃ run, stage' = ofRun settings run) ∨
    (∃ run program rest, stage = .closing run program ∧ stage' = .closing run rest ∧
      program.Step none rest) ∨
    ∃ result, stage' = .ended result := by
  generalize hlabel : none = label at h
  cases h with
  | list hstep =>
    obtain rfl := Option.map_eq_none_iff.1 hlabel.symm
    exact .inl ⟨_, _, rfl, rfl, hstep⟩
  | listed keys => exact .inr (.inl ⟨keys, rfl, rfl⟩)
  | unlisted failure => exact .inr (.inr (.inr (.inr (.inl ⟨_, rfl⟩))))
  | work hstep =>
    obtain rfl := Option.map_eq_none_iff.1 hlabel.symm
    generalize hturn : none = label at hstep
    cases hstep with
    | move hmove =>
      obtain rfl := Option.map_eq_none_iff.1 hturn.symm
      exact .inr (.inr (.inl ⟨_, _, _, _, _, rfl, rfl, hmove⟩))
    | settle front back queue key outcome =>
      exact .inr (.inr (.inr (.inl ⟨front, back, queue, key, outcome, _, _, rfl, rfl⟩)))
  | worked hstep => exact .inr (.inr (.inr (.inr (.inl ⟨_, rfl⟩))))
  | close hstep =>
    obtain rfl := Option.map_eq_none_iff.1 hlabel.symm
    exact .inr (.inr (.inr (.inr (.inr (.inl ⟨_, _, _, rfl, rfl, hstep⟩)))))
  | closed run closing => exact .inr (.inr (.inr (.inr (.inr (.inr ⟨_, rfl⟩)))))

end Stage

namespace Stage

/-- How a run goes on with its collaborators, after some time: a call is made and answered, or the
    run takes a step without a call. -/
inductive Goes (settings : Settings) : World × Stage → Option Asked → World × Stage → Prop
  | ask {world : World} {stage stage' : Stage} (nanos : Nat) (key? : Option String) (call : Call)
    (hstep : stage.Step settings (some ⟨key?, ⟨call, ((world.pass nanos).answer call).1⟩⟩) stage') :
    Goes settings (world, stage) (some ⟨key?, ⟨call, ((world.pass nanos).answer call).1⟩⟩)
      (((world.pass nanos).answer call).2, stage')
  | silent {world : World} {stage stage' : Stage} (nanos : Nat)
    (hstep : stage.Step settings none stage') :
    Goes settings (world, stage) none (world.pass nanos, stage')

/-- The run has not come to its closing yet. -/
def IsSending : Stage → Prop
  | .listing _ | .working _ => True
  | .closing _ _ | .ended _ => False

/-- How a run goes on until it comes to its closing. -/
def Sends (settings : Settings) (state : World × Stage) (label : Option Asked)
    (next : World × Stage) : Prop :=
  state.2.IsSending ∧ Goes settings state label next

variable {settings : Settings}

theorem Sends.step {state next : World × Stage} {label : Option Asked}
    (h : Sends settings state label next) : state.2.Step settings label next.2 := by
  cases h.2 with
  | ask _ _ _ hstep => exact hstep
  | silent _ hstep => exact hstep

theorem sends_of_listing {world : World}
    {program : Program Call.Answer (Except Failure (List String))} {label : Option Asked}
    {next : World × Stage} (h : Goes settings (world, .listing program) label next) :
    Sends settings (world, .listing program) label next := ⟨trivial, h⟩

/-- While a stage goes on with a program, a run of the program is a piece of the whole. -/
theorem exists_path_of_run (settings : Settings) {α : Type}
    {stageOf : Program Call.Answer α → Stage} (key? : Option String)
    (hstage : ∀ program rest turn, program.Step turn rest →
      (stageOf program).Step settings (turn.map (Asked.mk key?)) (stageOf rest))
    {step : World × Stage → Option Asked → World × Stage → Prop}
    (hstep : ∀ world program label next, Goes settings (world, stageOf program) label next →
      step (world, stageOf program) label next)
    {program : Program Call.Answer α} {world : World} {value : α}
    (hrun : (program.run World.answer World.pass world).1 = some value) :
    ∃ asked, Path step (world, stageOf program) asked
      ((program.run World.answer World.pass world).2, stageOf (.done value)) := by
  induction program generalizing world with
  | done other =>
    cases hrun
    exact ⟨[], .nil _⟩
  | ask call next ih =>
    obtain ⟨asked, hpath⟩ := ih _ hrun
    exact ⟨_, .cons (hstep _ _ _ _ (.ask 0 key? call (hstage _ _ _ (.ask call next _)))) hpath⟩
  | wait nanos next ih =>
    obtain ⟨asked, hpath⟩ := ih hrun
    exact ⟨_, .cons (hstep _ _ _ _ (.silent nanos (hstage _ _ _ (.wait nanos next)))) hpath⟩
  | halt => cases hrun

/-- While the others stand still, the work on one object is a piece of the whole. -/
theorem exists_path_of_lane (settings : Settings)
    (front back queue : Crew String Call.Answer (Except Failure ItemOutcome)) (key : String)
    (tally : Summary) {program : Program Call.Answer (Except Failure ItemOutcome)} {world : World}
    {outcome : Except Failure ItemOutcome}
    (hrun : (program.run World.answer World.pass world).1 = some outcome) :
    ∃ asked, Path (Sends settings)
      (world, .working ⟨front ++ (key, program) :: back, queue, tally⟩) asked
      ((program.run World.answer World.pass world).2,
        .working ⟨front ++ (key, .done outcome) :: back, queue, tally⟩) := by
  have hstage (program rest : Program Call.Answer (Except Failure ItemOutcome))
      (turn : Option (Turn Call.Answer)) (hstep : program.Step turn rest) :
      (working ⟨front ++ (key, program) :: back, queue, tally⟩).Step settings
        (turn.map (Asked.mk (some key)))
        (.working ⟨front ++ (key, rest) :: back, queue, tally⟩) := by
    have hwork : (working ⟨front ++ (key, program) :: back, queue, tally⟩).Step settings
        ((turn.map (key, ·)).map fun (key, turn) => ⟨some key, turn⟩)
        (.working ⟨front ++ (key, rest) :: back, queue, tally⟩) :=
      .work (.move (.mk front back key hstep))
    rwa [Option.map_map] at hwork
  exact exists_path_of_run settings (some key) hstage (fun _ _ _ _ hgoes => ⟨trivial, hgoes⟩) hrun

/-- A run of a schedule is one of the ways in which its shift may go. The time that passes between
    two steps of the shift counts as passing before the second one. -/
theorem exists_path_of_schedule {program : Program Call.Answer (Except Failure Summary)}
    {shift : Shift String Call.Answer (Except Failure ItemOutcome) Summary}
    (h : Schedule (Summary.add settings.handling.skipLimit) Except.ok program shift)
    {world : World} (nanos : Nat) {run : Except Failure Summary}
    (hrun : (program.run World.answer World.pass (world.pass nanos)).1 = some run) :
    ∃ asked, Path (Sends settings) (world, .working shift) asked
      ((program.run World.answer World.pass (world.pass nanos)).2, .ofRun settings run) := by
  induction h generalizing world nanos with
  | @ask call _ next' front back queue member _ _ ih =>
    obtain ⟨asked, hpath⟩ := ih _ 0 hrun
    exact ⟨_, .cons ⟨trivial, .ask nanos (some member) call
      (.work (.move (.mk front back member (.ask call next' _))))⟩ hpath⟩
  | @pass more program shift _ ih =>
    have hpass : (world.pass nanos).pass more = world.pass (nanos + more) := by
      simp only [World.pass, Nat.add_assoc]
    simp only [Program.run, hpass] at hrun ⊢
    exact ih (nanos + more) hrun
  | silent hstep _ ih =>
    obtain ⟨asked, hpath⟩ := @ih (world.pass nanos) 0 hrun
    exact ⟨_, .cons ⟨trivial, .silent nanos (.work hstep)⟩ hpath⟩
  | ended hstep =>
    cases hrun
    exact ⟨_, .cons ⟨trivial, .silent nanos (.worked hstep)⟩ (.nil _)⟩
  | halt => cases hrun

/-- Sending objects by the clock follows a schedule. -/
theorem schedule_of_sendObjects (settings : Settings) (keys : List String) :
    Schedule (Summary.add settings.handling.skipLimit) Except.ok (sendObjects settings keys).run
      (.start settings.handling.workers (.start keys.length) (tasks settings keys)) := by
  have htasks : (tasks settings keys).map Prod.snd = keys.map (Item.process settings) := by
    rw [tasks, List.map_map]
    rfl
  have h := pool_schedule (Summary.add settings.handling.skipLimit)
    (Except.ok : Summary → Except Failure Summary) settings.handling.workers (.start keys.length)
    (tasks settings keys)
  rw [htasks] at h
  exact h

theorem exists_path_of_sendObjects {keys : List String} {world : World}
    {run : Except Failure Summary}
    (hrun : (World.run (sendObjects settings keys) world).1 = some run) :
    ∃ asked, Path (Sends settings) (world, .ofKeys settings keys) asked
      ((World.run (sendObjects settings keys) world).2, .ofRun settings run) :=
  exists_path_of_schedule (schedule_of_sendObjects settings keys) 0 hrun

/-- Once its objects have been listed, a run works on them. -/
theorem exists_path_of_list {world world' : World} {keys : List String}
    (hrun : World.run (retry settings.retries.objectStore
      (Call.list settings.storage.folder).errand) world = (some (.ok keys), world')) :
    ∃ asked, Path (Sends settings) (world, .first settings) asked
      (world', .ofKeys settings (candidates keys)) := by
  obtain rfl := congrArg Prod.snd hrun
  obtain ⟨asked, hpath⟩ := exists_path_of_run settings none (fun _ _ _ hstep => .list hstep)
    (fun _ _ _ _ => sends_of_listing) (congrArg Prod.fst hrun)
  exact ⟨_, hpath.append (.cons ⟨trivial, .silent 0 (.listed keys)⟩ (.nil _))⟩

/-- Listing the objects and sending them is a run up to its closing. -/
theorem exists_path_of_sendAll {world : World} {run : Except Failure Summary}
    (hrun : (World.run (sendAll settings) world).1 = some run) :
    ∃ asked, Path (Sends settings) (world, .first settings) asked
      ((World.run (sendAll settings) world).2, .ofRun settings run) := by
  have hparts : World.run (sendAll settings) world =
      ((retry settings.retries.objectStore (Call.list settings.storage.folder).errand).run.bind
        (ExceptT.bindCont fun keys => sendObjects settings (candidates keys))).run
          World.answer World.pass world := rfl
  rw [hparts] at hrun ⊢
  obtain ⟨listed, hlist, hrest⟩ := exists_run_of_bind hrun
  rw [hrest] at hrun ⊢
  cases listed with
  | error failure =>
    obtain ⟨front, hfront⟩ := exists_path_of_run settings none
      (fun _ _ _ hstep => .list hstep)
      (fun _ _ _ _ => sends_of_listing) hlist
    cases hrun
    exact ⟨_, hfront.append (.cons ⟨trivial, .silent 0 (.unlisted failure)⟩ (.nil _))⟩
  | ok keys =>
    obtain ⟨front, hfront⟩ := exists_path_of_list (Prod.ext hlist rfl)
    obtain ⟨back, hback⟩ := exists_path_of_sendObjects hrun
    exact ⟨_, hfront.append hback⟩

/-- The closing of a run is the rest of it. -/
theorem exists_path_of_closing (run : Except Failure Summary) {world : World}
    {closing : Except Failure Unit}
    (hrun : (World.run (Closing.afterRun settings run) world).1 = some closing) :
    ∃ asked, Path (Goes settings) (world, .ofRun settings run) asked
      ((World.run (Closing.afterRun settings run) world).2,
        .ended (Closing.result run closing)) := by
  have hstage (program rest : Program Call.Answer (Except Failure Unit))
      (turn : Option (Turn Call.Answer)) (hstep : program.Step turn rest) :
      (Stage.closing run program).Step settings (turn.map (Asked.mk none)) (.closing run rest) :=
    .close hstep
  obtain ⟨asked, hpath⟩ := exists_path_of_run settings none hstage (fun _ _ _ _ => id) hrun
  exact ⟨_, hpath.append (.cons (.silent 0 (.closed run closing)) (.nil _))⟩

/-- A whole run, carried out by the clock, is one of the ways in which it may go. -/
theorem exists_path_of_send {world : World} {result : Except Failure Summary}
    (hrun : (World.run (send settings) world).1 = some result) :
    ∃ asked, Path (Goes settings) (world, .first settings) asked
      ((World.run (send settings) world).2, .ended result) := by
  have hparts : World.run (send settings) world =
      ((sendAll settings).run.bind fun run =>
        (Closing.afterRun settings run).run.bind fun closing =>
          .done (Closing.result run closing)).run World.answer World.pass world := rfl
  rw [hparts] at hrun ⊢
  obtain ⟨run, hwork, hrest⟩ := exists_run_of_bind hrun
  rw [hrest] at hrun ⊢
  obtain ⟨closing, hclosing, hlast⟩ := exists_run_of_bind hrun
  rw [hlast] at hrun ⊢
  cases hrun
  obtain ⟨front, hfront⟩ := exists_path_of_sendAll hwork
  obtain ⟨back, hback⟩ := exists_path_of_closing run hclosing
  exact ⟨_, (hfront.mono fun _ _ _ hsends => hsends.2).append hback⟩

end Stage

end Courier

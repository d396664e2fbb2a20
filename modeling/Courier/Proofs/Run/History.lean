import Courier.Proofs.Run.Stage

/-!
Histories of senders. In a history one run follows another over the same collaborators, and a run
may die at any step. `exists_path_of_send` says that a whole run, as it is carried out by the clock,
is a piece of a history.
-/

namespace Courier

open Memory Program

/-- The collaborators, and the run that is in progress. -/
structure History where
  world : World
  current : Option (Settings × Stage)

/-- The steps of a history. A run begins only when none is in progress; it may die at any time, and
    calls of any kind may be made to fail at any time. -/
inductive History.Step (admits : Settings → Prop) : History → Option Asked → History → Prop
  | begin (world : World) (settings : Settings) (hadmits : admits settings) :
    Step admits ⟨world, none⟩ none ⟨world, some (settings, .first settings)⟩
  | ask {world : World} {settings : Settings} {stage stage' : Stage} (key? : Option String)
    (call : Call)
    (hstep : stage.Step settings (some ⟨key?, ⟨call, (world.answer call).1⟩⟩) stage') :
    Step admits ⟨world, some (settings, stage)⟩ (some ⟨key?, ⟨call, (world.answer call).1⟩⟩)
      ⟨(world.answer call).2, some (settings, stage')⟩
  | silent {world : World} {settings : Settings} {stage stage' : Stage}
    (hstep : stage.Step settings none stage') :
    Step admits ⟨world, some (settings, stage)⟩ none ⟨world, some (settings, stage')⟩
  | pass (history : History) (nanos : Nat) :
    Step admits history none { history with world := history.world.pass nanos }
  | disrupt (history : History) (faults : CallKind → List (Option Failure)) :
    Step admits history none { history with world := { history.world with faults } }
  | finish (world : World) (settings : Settings) (result : Except Failure Summary) :
    Step admits ⟨world, some (settings, .ended result)⟩ none ⟨world, none⟩
  | die (world : World) (settings : Settings) (stage : Stage) :
    Step admits ⟨world, some (settings, stage)⟩ none ⟨world, none⟩

namespace History

variable {settings : Settings}

/-- Whatever a run may do on its own, it may do in a history. -/
theorem exists_path_of_goes (admits : Settings → Prop) {world world' : World}
    {stage stage' : Stage} {label : Option Asked}
    (h : Stage.Goes settings (world, stage) label (world', stage')) :
    ∃ labels, Path (Step admits) ⟨world, some (settings, stage)⟩ labels
      ⟨world', some (settings, stage')⟩ := by
  cases h with
  | ask nanos key? call hstep => exact ⟨_, .cons (.pass _ nanos) (.cons (.ask key? call hstep) (.nil _))⟩
  | silent nanos hstep => exact ⟨_, .cons (.silent hstep) (.cons (.pass _ nanos) (.nil _))⟩

theorem exists_path_of_path (admits : Settings → Prop) {first last : World × Stage}
    {labels : List (Option Asked)} (h : Path (Stage.Goes settings) first labels last) :
    ∃ asked, Path (Step admits) ⟨first.1, some (settings, first.2)⟩ asked
      ⟨last.1, some (settings, last.2)⟩ := by
  induction h with
  | nil => exact ⟨[], .nil _⟩
  | cons hstep _ ih =>
    obtain ⟨front, hfront⟩ := exists_path_of_goes admits hstep
    obtain ⟨back, hback⟩ := ih
    exact ⟨_, hfront.append hback⟩

/-- While the others stand still, the work on one object is a piece of the history. -/
theorem exists_path_of_lane (admits : Settings → Prop) (settings : Settings)
    (front back queue : Crew String Call.Answer (Except Failure ItemOutcome)) (key : String)
    (tally : Summary) {program : Program Call.Answer (Except Failure ItemOutcome)} {world : World}
    {outcome : Except Failure ItemOutcome}
    (hrun : (program.run World.answer World.pass world).1 = some outcome) :
    ∃ asked, Path (Step admits)
      ⟨world, some (settings, .working ⟨front ++ (key, program) :: back, queue, tally⟩)⟩ asked
      ⟨(program.run World.answer World.pass world).2,
        some (settings, .working ⟨front ++ (key, .done outcome) :: back, queue, tally⟩)⟩ := by
  obtain ⟨asked, hpath⟩ := Stage.exists_path_of_lane settings front back queue key tally hrun
  exact exists_path_of_path admits (hpath.mono fun _ _ _ hsends => hsends.2)

/-- Once its objects have been listed, a run works on them. -/
theorem exists_path_of_list (admits : Settings → Prop) {world world' : World} {keys : List String}
    (hrun : World.run (retry settings.retries.objectStore
      (Call.list settings.storage.folder).errand) world = (some (.ok keys), world')) :
    ∃ asked, Path (Step admits) ⟨world, some (settings, .first settings)⟩ asked
      ⟨world', some (settings, .ofKeys settings (candidates keys))⟩ := by
  obtain ⟨asked, hpath⟩ := Stage.exists_path_of_list hrun
  exact exists_path_of_path admits (hpath.mono fun _ _ _ hsends => hsends.2)

/-- The closing of a run is the rest of its history. -/
theorem exists_path_of_closing (admits : Settings → Prop) (settings : Settings)
    (run : Except Failure Summary) {world : World} {closing : Except Failure Unit}
    (hrun : (World.run (Closing.afterRun settings run) world).1 = some closing) :
    ∃ asked, Path (Step admits) ⟨world, some (settings, .ofRun settings run)⟩ asked
      ⟨(World.run (Closing.afterRun settings run) world).2, none⟩ := by
  obtain ⟨asked, hpath⟩ := Stage.exists_path_of_closing run hrun
  obtain ⟨front, hfront⟩ := exists_path_of_path admits hpath
  exact ⟨_, hfront.append (.cons (.finish _ settings _) (.nil _))⟩

/-- A whole run, carried out by the clock, is a piece of a history. -/
theorem exists_path_of_send {admits : Settings → Prop} {settings : Settings}
    (hadmits : admits settings) {world : World} {result : Except Failure Summary}
    (hrun : (World.run (send settings) world).1 = some result) :
    ∃ asked, Path (Step admits) ⟨world, none⟩ asked
      ⟨(World.run (send settings) world).2, none⟩ := by
  obtain ⟨asked, hpath⟩ := Stage.exists_path_of_send hrun
  obtain ⟨front, hfront⟩ := exists_path_of_path admits hpath
  exact ⟨_, .cons (.begin world settings hadmits)
    (hfront.append (.cons (.finish _ settings result) (.nil _)))⟩

end History

end Courier

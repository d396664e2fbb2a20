import Courier.Proofs.Run.Forecast

/-!
The order of the work. Objects whose markers differ do not meet, so a run without faults comes to the
same end with any number of workers, whichever of them goes on with its next call at any moment.
-/

namespace Courier

open Memory Program

/-- The same run with another number of workers. -/
def Settings.withWorkers (settings : Settings) (workers : Nat) : Settings :=
  { settings with handling := { settings.handling with workers } }

namespace Settings

variable {settings : Settings} {start : World} {workers : Nat}

theorem forecast_withWorkers :
    (settings.withWorkers workers).forecast start = settings.forecast start := rfl

theorem viable_withWorkers :
    (settings.withWorkers workers).Viable start ↔ settings.Viable start :=
  ⟨fun h => ⟨h.outcomes, h.budget⟩, fun h => ⟨h.outcomes, h.budget⟩⟩

theorem completed_withWorkers {calls : List (String × Call)} {world : World} :
    (settings.withWorkers workers).Completed start calls world ↔
      settings.Completed start calls world :=
  ⟨fun h => ⟨h.script, h.reflects⟩, fun h => ⟨h.script, h.reflects⟩⟩

end Settings

/-- If a run without faults succeeds with one worker, it does so with any number of workers, whether
    it is carried out by the clock or its members go on in any other order: with the same summary,
    the same objects and rows, and the same deliveries up to their order. -/
theorem sends_alike {settings : Settings} {start after : World} {summary : Summary}
    (hfree : start.FaultFree)
    (hapart : ((settings.todo start).map (Item.markerKey settings)).Nodup)
    (hrun : World.run (sendAll (settings.withWorkers 1)) start = (some (.ok summary), after))
    (workers : Nat) :
    (∃ after', World.run (sendAll (settings.withWorkers workers)) start =
        (some (.ok summary), after') ∧ start.SameSince after after') ∧
      Inevitable (Stage.Sends (settings.withWorkers workers))
        (fun state => state.2 = .ofRun (settings.withWorkers workers) (.ok summary) ∧
          start.SameSince after state.1)
        (start, .first (settings.withWorkers workers)) := by
  have hseparate (workers : Nat) : (settings.withWorkers workers).Separate start := .inl hapart
  obtain ⟨labels, hpath⟩ := Stage.exists_path_of_sendAll (congrArg Prod.fst hrun)
  rw [hrun] at hpath
  obtain ⟨hsummary, hviable, hone⟩ | ⟨⟨failure, hfailed⟩, -⟩ :=
    result_of_sends hfree (hseparate 1) hpath
  · cases hsummary
    rw [Settings.viable_withWorkers] at hviable
    rw [Settings.completed_withWorkers] at hone
    have hviable' : (settings.withWorkers workers).Viable start :=
      Settings.viable_withWorkers.2 hviable
    constructor
    · obtain ⟨after', calls, hrun', hmany⟩ := run_of_viable hfree (hseparate workers) hviable'
      exact ⟨after', hrun', hone.sameSince (Settings.completed_withWorkers.1 hmany)⟩
    · refine (inevitable_of_viable hfree (hseparate workers) hviable').mono fun state hstate => ?_
      obtain ⟨hresult, calls, hmany⟩ := hstate
      exact ⟨hresult, hone.sameSince (Settings.completed_withWorkers.1 hmany)⟩
  · cases hfailed

theorem sends_alike_pairWorld :
    Sample.pairWorld.FaultFree ∧
    ((Sample.lenient.todo Sample.pairWorld).map (Item.markerKey Sample.lenient)).Nodup ∧
    ∃ after, World.run (sendAll (Sample.lenient.withWorkers 1)) Sample.pairWorld =
        (some (.ok ⟨2, 0, 1, 1⟩), after) ∧
      (∃ after', World.run (sendAll (Sample.lenient.withWorkers 2)) Sample.pairWorld =
          (some (.ok ⟨2, 0, 1, 1⟩), after') ∧ Sample.pairWorld.SameSince after after') ∧
      Inevitable (Stage.Sends (Sample.lenient.withWorkers 2))
        (fun state => state.2 = .ofRun (Sample.lenient.withWorkers 2) (.ok ⟨2, 0, 1, 1⟩) ∧
          Sample.pairWorld.SameSince after state.1)
        (Sample.pairWorld, .first (Sample.lenient.withWorkers 2)) := by
  have hone : (Sample.lenient.withWorkers 1).Viable Sample.pairWorld :=
    Settings.viable_withWorkers.2 Sample.viable_pairWorld
  have hseparate : (Sample.lenient.withWorkers 1).Separate Sample.pairWorld :=
    .inl Sample.markers_pairWorld
  obtain ⟨after, calls, hrun, -⟩ := run_of_viable Sample.faultFree_pairWorld hseparate hone
  rw [Settings.forecast_withWorkers, Sample.forecast_pairWorld] at hrun
  exact ⟨Sample.faultFree_pairWorld, Sample.markers_pairWorld, after, hrun,
    sends_alike Sample.faultFree_pairWorld Sample.markers_pairWorld hrun 2⟩

end Courier

import Courier.Proofs.Memory.Answer
import Courier.Proofs.Program.Rule

/-!
Errands among the collaborators in memory: how the parts of an errand run one after another, which
calls they add to those before, and that failures planned for calls an errand does not make have no
effect on it.
-/

namespace Courier.Memory

open Program

/-- The calls that have been made from one moment to another, the first one first. -/
def World.Adds (before after : World) (events : List Event) : Prop :=
  after.events = events.reverse ++ before.events

namespace World

/-- The first failure ends an errand. -/
theorem run_andThen {α β : Type} (first : Errand α) (f : α → Errand β) (world : World) :
    World.run (first >>= f) world =
      match World.run first world with
      | (some (.ok value), after) => World.run (f value) after
      | (some (.error failure), after) => (some (.error failure), after)
      | (none, after) => (none, after) := by
  unfold World.run
  rw [Program.run_andThen]
  rcases first.run.run answer pass world with ⟨_ | _ | _, after⟩ <;> rfl

theorem run_orElse {α : Type} (first : Errand α) (handle : Failure → Errand α) (world : World) :
    World.run (tryCatch first handle) world =
      match World.run first world with
      | (some (.ok value), after) => (some (.ok value), after)
      | (some (.error failure), after) => World.run (handle failure) after
      | (none, after) => (none, after) := by
  refine (run_bind answer pass first.run _ world).trans ?_
  unfold World.run
  rcases first.run.run answer pass world with ⟨_ | _ | _, after⟩ <;> rfl

theorem Adds.trans {before middle after : World} {front back : List Event}
    (hfront : before.Adds middle front) (hback : middle.Adds after back) :
    before.Adds after (front ++ back) := by
  rw [Adds, hback, hfront, List.reverse_append, List.append_assoc]

theorem adds_answer (world : World) (call : Call) :
    world.Adds (world.answer call).2 [⟨call, world.planned call⟩] :=
  answer_events

/-- The world in which other failures are planned for the calls of a kind. -/
def replanned (world : World) (kind : CallKind) (faults : List (Option Failure)) : World :=
  { world with faults := fun other => if other = kind then faults else world.faults other }

section Replanned

variable {kind : CallKind} {call : Call} (faults : List (Option Failure)) (world : World)

theorem nextFault_replanned {other : CallKind} (h : other ≠ kind) :
    (world.replanned kind faults).nextFault other =
      ((world.nextFault other).1, (world.nextFault other).2.replanned kind faults) := by
  simp only [nextFault, replanned, h, if_false]
  split
  · rfl
  · next planned rest hplanned =>
    refine congrArg (fun faults => (planned, { world with faults })) (funext fun third => ?_)
    by_cases hthird : third = kind
    · simp [hthird, Ne.symm h]
    · simp [hthird]

theorem disturbed_replanned (correlationId collection : String) (row : Row) :
    (world.replanned kind faults).disturbed correlationId collection row =
      ((world.disturbed correlationId collection row).1,
        (world.disturbed correlationId collection row).2.replanned kind faults) := by
  cases h : world.interloper <;> simp only [disturbed, replanned, h, setRow]

theorem perform_replanned :
    (world.replanned kind faults).perform call =
      ((world.perform call).1, (world.perform call).2.replanned kind faults) := by
  cases call with
  | transition correlationId collection expected status =>
    have htable : (world.replanned kind faults).table = world.table := rfl
    simp only [perform, htable, disturbed_replanned]
    cases find? world.table (correlationId, collection) with
    | none => rfl
    | some row =>
      dsimp only
      split <;> rfl
  | get | unwrap | deliver =>
    simp only [perform, replanned]
    split <;> rfl
  | _ => rfl

/-- A call is answered alike whatever is planned for calls of another kind. -/
theorem answer_replanned (h : kindOf call ≠ kind) :
    (world.replanned kind faults).answer call =
      ((world.answer call).1, (world.answer call).2.replanned kind faults) := by
  unfold answer
  rw [nextFault_replanned faults world h]
  rcases world.nextFault (kindOf call) with ⟨_ | failure, next⟩
  · exact perform_replanned faults (next.note ⟨call, none⟩)
  · rfl

/-- A program that makes no call of a kind runs alike whatever is planned for such calls. -/
theorem run_replanned {α : Type} {program : Program Call.Answer α}
    (h : Makes (fun call => kindOf call ≠ kind) program) :
    program.run answer pass (world.replanned kind faults) =
      ((program.run answer pass world).1,
        (program.run answer pass world).2.replanned kind faults) := by
  unfold Makes at h
  generalize () = place at h
  induction h generalizing world with
  | done => rfl
  | ask hallowed _ ih =>
    simp only [Program.run, answer_replanned faults world hallowed]
    exact ih _ _
  | wait _ ih => exact ih (world.pass _)
  | halt => rfl

end Replanned

/-- From one moment to another only some calls have been made. -/
def OnlyAdds (allowed : Call → Prop) (before after : World) : Prop :=
  ∃ events, before.Adds after events ∧ ∀ event ∈ events, allowed event.call

/-- A program that makes only some calls has made no others, also if it has halted. -/
theorem onlyAdds_run {allowed : Call → Prop} {α : Type} {program : Program Call.Answer α}
    (h : Makes allowed program) (world : World) :
    world.OnlyAdds allowed (program.run answer pass world).2 := by
  have hstart : world.OnlyAdds allowed world := ⟨[], rfl, List.forall_mem_nil _⟩
  refine h.run_state hstart ?_ fun _ _ h => h
  rintro state call hcall ⟨events, hadds, hall⟩
  refine ⟨_, hadds.trans (state.adds_answer call), List.forall_mem_append.2 ⟨hall, ?_⟩⟩
  exact List.forall_mem_singleton.2 hcall

end World

end Courier.Memory

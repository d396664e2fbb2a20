import Courier.Proofs.Memory.Answer
import Courier.Proofs.Program.Rule

/-!
Runs in which no call fails by plan. Every call is performed then, and an errand that succeeds call
by call succeeds as a whole at its first attempt.
-/

namespace Courier

namespace Memory

namespace World

variable {world : World} {call : Call}

/-- No failure is planned for any call. -/
def FaultFree (world : World) : Prop := ∀ kind, ∀ fault ∈ world.faults kind, fault = none

/-- The world with no failure planned any more. -/
def calmed (world : World) : World := { world with faults := fun _ => [] }

theorem faultFree_calmed (world : World) : world.calmed.FaultFree := fun _ _ h => nomatch h

theorem mem_nextFault {kind other : CallKind} {fault : Option Failure}
    (h : fault ∈ (world.nextFault kind).2.faults other) : fault ∈ world.faults other := by
  unfold nextFault at h
  split at h
  · exact h
  · next planned rest hfaults =>
    dsimp only at h
    split at h
    · next hkind =>
      rw [hkind, hfaults]
      exact List.mem_cons_of_mem planned h
    · exact h

@[simp]
theorem noted_dataKeys : (world.noted call).dataKeys = world.dataKeys := by
  unfold noted note nextFault
  split <;> rfl

theorem disturbed_row (world : World) (correlationId collection : String) (row : Row) :
    (world.disturbed correlationId collection row).1 = world.interloper.getD row := by
  unfold disturbed
  split <;> simp [*]

theorem disturbed_given (world : World) (correlationId collection : String) (row : Row) :
    (world.disturbed correlationId collection row).2.faults = world.faults ∧
      (world.disturbed correlationId collection row).2.dataKeys = world.dataKeys := by
  unfold disturbed setRow
  split <;> exact ⟨rfl, rfl⟩

/-- What no call changes. -/
theorem perform_given (world : World) (call : Call) :
    (world.perform call).2.faults = world.faults ∧
      (world.perform call).2.dataKeys = world.dataKeys := by
  cases call with
  | transition correlationId collection expected status =>
    simp only [perform]
    split
    · exact ⟨rfl, rfl⟩
    · rename_i row _
      obtain ⟨hfaults, hkeys⟩ := world.disturbed_given correlationId collection row
      split <;> exact ⟨hfaults, hkeys⟩
  | get | unwrap | deliver =>
    simp only [perform]
    split <;> exact ⟨rfl, rfl⟩
  | _ => exact ⟨rfl, rfl⟩

@[simp]
theorem answer_dataKeys : (world.answer call).2.dataKeys = world.dataKeys := by
  obtain ⟨failure, -, h⟩ | ⟨-, h⟩ := world.answer_cases call
  · rw [h, noted_dataKeys]
  · rw [h, (perform_given _ call).2, noted_dataKeys]

namespace FaultFree

theorem planned (h : world.FaultFree) (call : Call) : world.planned call = none := by
  unfold World.planned nextFault
  split
  · rfl
  · next fault rest hfaults => exact h _ fault (hfaults ▸ List.mem_cons_self)

theorem answer (h : world.FaultFree) (call : Call) : (world.answer call).2.FaultFree := by
  intro kind fault hfault
  rw [answer_eq_of_unplanned (h.planned call), (perform_given _ call).1] at hfault
  exact h kind fault (mem_nextFault hfault)

/-- Every call is answered as it is performed. -/
theorem result (h : world.FaultFree) (call : Call) :
    (world.answer call).1 = (world.perform call).1 := by
  rw [answer_eq_of_unplanned (h.planned call)]
  cases call with
  | transition correlationId collection expected status =>
    simp only [perform, noted_table]
    cases find? world.table (correlationId, collection) with
    | none => rfl
    | some row =>
      simp only [disturbed_row, noted_interloper]
      split <;> rfl
  | list => simp only [perform, keys, noted_objects]
  | get =>
    simp only [perform, noted_objects]
    split <;> rfl
  | unwrap =>
    simp only [perform, noted_dataKeys]
    split <;> rfl
  | deliver =>
    simp only [perform]
    split <;> rfl
  | _ => simp only [perform, noted_objects, noted_table]

end FaultFree

/-- No failure is planned, and the calls since `before` have changed nothing. -/
structure Heard (before after : World) (calls : List Call) : Prop where
  faultFree : after.FaultFree
  objects : after.objects = before.objects
  table : after.table = before.table
  dataKeys : after.dataKeys = before.dataKeys
  pieceSize : after.pieceSize = before.pieceSize
  undisturbed : before.interloper = none → after.interloper = none
  events : after.events = (calls.map fun call => ⟨call, none⟩).reverse ++ before.events

namespace Heard

variable {before after : World} {calls : List Call}

theorem refl (h : before.FaultFree) : Heard before before [] := ⟨h, rfl, rfl, rfl, rfl, id, rfl⟩

theorem answer (h : Heard before after calls) (call : Call)
    (hwrites : (kindOf call).writes = false) :
    Heard before (after.answer call).2 (calls ++ [call]) where
  faultFree := h.faultFree.answer call
  objects := (answer_unwritten hwrites).1.trans h.objects
  table := (answer_unwritten hwrites).2.trans h.table
  dataKeys := answer_dataKeys.trans h.dataKeys
  pieceSize := answer_pieceSize.trans h.pieceSize
  undisturbed hnone := answer_interloper (h.undisturbed hnone)
  events := by simp [h.events, h.faultFree.planned]

end Heard

end World

/-- The errand succeeds with a value and leaves this world behind. -/
def Succeeds {α : Type} (errand : Errand α) (world : World) (value : α) (after : World) : Prop :=
  World.run errand world = (some (.ok value), after)

namespace Succeeds

variable {α β : Type} {errand : Errand α} {world middle after : World} {value : α}

theorem done (value : α) (world : World) : Succeeds (pure value) world value world := rfl

theorem of_toOption (h : (World.run errand world).1.bind Except.toOption = some value) :
    Succeeds errand world value (World.run errand world).2 := by
  obtain ⟨result, hresult, hvalue⟩ := Option.bind_eq_some_iff.1 h
  cases result with
  | error failure => cases hvalue
  | ok other =>
    cases hvalue
    exact Prod.ext hresult rfl

theorem of_ok {result : Except Failure α} (h : result = .ok value) :
    Succeeds (ExceptT.mk (pure result)) world value world := by
  rw [h]
  rfl

theorem call {call : Call} {value : call.Value} (h : (world.answer call).1 = .ok value) :
    Succeeds call.errand world value (world.answer call).2 := by
  show (some (world.answer call).1, (world.answer call).2) = _
  rw [h]

theorem bind {f : α → Errand β} {result : β} (h : Succeeds errand world value middle)
    (hf : Succeeds (f value) middle result after) : Succeeds (errand >>= f) world result after :=
  (Program.run_bind_of_eq h).trans hf

/-- An attempt that succeeds is the last one. -/
theorem retryFrom (h : Succeeds errand world value after) (delay : Nat → Option Nat)
    (again : Failure → Bool) (left attempt : Nat) :
    Succeeds (Courier.retryFrom delay again errand left attempt) world value after := by
  cases left with
  | zero => exact h
  | succ left => exact Program.run_bind_of_eq h

theorem retryIf (h : Succeeds errand world value after) (policy : RetryPolicy)
    (again : Failure → Bool) : Succeeds (Courier.retryIf policy again errand) world value after :=
  h.retryFrom _ _ _ _

theorem retry (h : Succeeds errand world value after) (policy : RetryPolicy) :
    Succeeds (Courier.retry policy errand) world value after := h.retryIf policy _

theorem tryCatch (h : Succeeds errand world value after) (handler : Failure → Errand α) :
    Succeeds (tryCatchThe Failure errand handler) world value after := Program.run_bind_of_eq h

end Succeeds

end Memory

end Courier

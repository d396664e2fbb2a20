import Courier.Proofs.Memory.Answer
import Courier.Proofs.Program.Rule

/-!
Collaborators whose answers may get lost. A call that fails then may have taken effect all the same,
and its caller cannot tell. Every exchange is remembered with what has become of it.
-/

namespace Courier.Memory

open Program

/-- What becomes of a call. -/
inductive Fate where
  | answered
  /-- The call fails without any effect. -/
  | refused (failure : Failure)
  /-- The call is performed, and a failure takes the place of its answer. -/
  | lost (failure : Failure)
  deriving DecidableEq

/-- Whether the call takes effect. -/
def Fate.isPerformed : Fate → Bool
  | refused _ => false
  | _ => true

def Fate.isLost : Fate → Bool
  | lost _ => true
  | _ => false

/-- What the caller hears, and what comes of the call. -/
def Fate.settle (fate : Fate) (call : Call) (world : World) : call.Answer × World :=
  match fate with
  | answered => world.perform call
  | refused failure => (.error failure, world)
  | lost failure => (.error failure, (world.perform call).2)

/-- A call is performed, or has no effect. -/
theorem Fate.settle_cases (fate : Fate) (call : Call) (world : World) :
    (fate.settle call world).2 = world ∨ (fate.settle call world).2 = (world.perform call).2 := by
  cases fate with
  | answered | lost => exact .inr rfl
  | refused => exact .inl rfl

theorem Fate.settle_interloper (fate : Fate) (call : Call) {world : World}
    (hnone : world.interloper = none) : (fate.settle call world).2.interloper = none := by
  obtain hrefused | hperformed := fate.settle_cases call world
  · rw [hrefused, hnone]
  · rw [hperformed]
    exact (world.perform_kept call).2.2 hnone

/-- A call, what would be heard of it if nothing got lost, and what has become of it. -/
structure Exchange where
  turn : Turn Call.Answer
  fate : Fate

/-- Collaborators that do not always answer. -/
structure Faltering where
  world : World
  /-- What becomes of the next calls; all later ones are answered. -/
  fates : List Fate
  /-- The exchanges so far, the last one first. -/
  exchanges : List Exchange

namespace Faltering

def start (world : World) (fates : List Fate) : Faltering := ⟨world, fates, []⟩

def answer (call : Call) (state : Faltering) : call.Answer × Faltering :=
  let fate := state.fates.headD .answered
  let (given, world) := fate.settle call state.world
  (given, ⟨world, state.fates.tail,
    ⟨⟨call, (state.world.perform call).1⟩, fate⟩ :: state.exchanges⟩)

def pass (nanos : Nat) (state : Faltering) : Faltering :=
  { state with world := state.world.pass nanos }

/-- Runs an errand. There is no result if it needs a delay that has no value. -/
def run {α : Type} (errand : Errand α) (state : Faltering) :
    Option (Except Failure α) × Faltering :=
  Program.run answer pass errand.run state

/-- What a call with a given fate comes to. -/
theorem answer_cases (call : Call) (state : Faltering) :
    ∃ fate : Fate, (state.answer call).1 = (fate.settle call state.world).1 ∧
      (state.answer call).2.world = (fate.settle call state.world).2 ∧
      (state.answer call).2.exchanges =
        ⟨⟨call, (state.world.perform call).1⟩, fate⟩ :: state.exchanges :=
  ⟨state.fates.headD .answered, rfl, rfl, rfl⟩

end Faltering

end Courier.Memory

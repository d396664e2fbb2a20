import Courier.Services.Step

/-!
A machine without a network: no service is ever reached, and only the memory of unwrapped keys
works.
-/

namespace Courier.Services

/-- Unwrapped keys by the wrapped key and the key that wraps it. -/
abbrev KeyMemory := List ((String × String) × String)

/-- What is left when no service is reached, and the time that has passed. -/
structure Offline where
  keys : KeyMemory
  clock : Nat

namespace Offline

def start : Offline := ⟨[], 0⟩

def answer (state : Offline) : (step : Step) → step.Answer
  | .recallKey keyId wrappedKey => state.keys.lookup (wrappedKey, keyId)
  | .rememberKey .. => ()
  | .post request => .error (.unanswered request.url)
  | .listPages .. => .refused .failed
  | .head .. => .error .failed
  | .fetch .. => .error .failed
  | .store .. => .error .failed
  | .readItem .. => .error .failed
  | .update _ => .error .failed
  | .queryPages .. => .refused .failed
  | .publish .. => .error .failed

def after (state : Offline) : Step → Offline
  | .rememberKey keyId wrappedKey dataKey =>
    { state with keys := ((wrappedKey, keyId), dataKey) :: state.keys }
  | _ => state

def forget (state : Offline) : Offline := { state with keys := [] }

/-- Runs a procedure. There is no result if it needs a delay that has no value. -/
def run {α : Type} (procedure : Procedure α) (state : Offline) :
    Option (Except Failure α) × Offline :=
  Program.run (fun step state => (state.answer step, state.after step))
    (fun nanos state => { state with clock := state.clock + nanos }) procedure.run state

end Offline

end Courier.Services

import Courier.Program.Pool
import Courier.Run.Item

/-!
Sending all objects of a folder. The encrypted ones are worked on by a pool of workers; rejected
objects are charged to a budget, and a failure that belongs to no single object ends the run.
-/

namespace Courier

/-- What became of the objects of a run. -/
structure Summary where
  listed : Nat
  skipped : Nat
  delivered : Nat
  rejected : Nat
  deriving DecidableEq, Repr

namespace Summary

/-- The summary before the first object is done. -/
def start (listed : Nat) : Summary := ⟨listed, 0, 0, 0⟩

/-- Adds an outcome. The rejected object that exceeds the budget ends the run, and so does a
    failure. -/
def add (skipLimit : Nat) (summary : Summary) :
    Except Failure ItemOutcome → Tallied Summary (Except Failure Summary)
  | .ok .skipped => .more { summary with skipped := summary.skipped + 1 }
  | .ok .delivered => .more { summary with delivered := summary.delivered + 1 }
  | .ok (.rejected _) =>
    let rejected := summary.rejected + 1
    if skipLimit < rejected then .stop (.error ⟨.skipBudget, .tooManyRejected rejected skipLimit⟩)
    else .more { summary with rejected }
  | .error failure => .stop (.error failure)

end Summary

/-- The keys of the objects that are sent. -/
def candidates (keys : List String) : List String := keys.filter (Text.endsWith encryptedEnding)

theorem candidates_eq (keys : List String) :
    candidates keys = keys.filter fun key => decide (".enc".toList <:+ key.toList) := by
  refine List.filter_congr fun key _ => ?_
  rw [Text.endsWith, Bool.eq_iff_iff, List.isSuffixOf_iff_suffix, decide_eq_true_eq]
  rfl

def sendObjects (settings : Settings) (keys : List String) : Errand Summary :=
  pool settings.handling.workers (Summary.add settings.handling.skipLimit) Except.ok
    (.start keys.length) (keys.map (Item.process settings))

/-- Sends the objects of the run's folder. -/
def sendAll (settings : Settings) : Errand Summary := do
  let keys : List String ←
    retry settings.retries.objectStore (Call.list settings.storage.folder).errand
  sendObjects settings (candidates keys)

end Courier

import Courier.Export.Indicator
import Courier.Run.Notice
import Courier.Run.Summary

/-!
The end of a run. A failed run leaves the status table alone and is reported. A successful one posts
the success indicator, or moves the collection on and reports the completion of the export; whatever
fails in that is reported too, and then returned.
-/

namespace Courier

/-- Posts the success indicator, if the topic names a collection. -/
def postIndicator (settings : Settings) : Errand Unit :=
  match Indicator.headers? settings.run.topicName with
  | none => return ()
  | some headers =>
    tryCatch
      (retry settings.retries.indicator
        (Call.deliver (headers.pairs settings.run) [.ok Indicator.body]).errand)
      fun failure =>
        throw ⟨.successIndicator, .indicatorNotPosted headers.filename failure.message⟩

namespace Closing

/-- What a successful run does at its end. -/
def complete (settings : Settings) : Errand Unit := do
  if settings.handling.indicatorOnly then postIndicator settings
  else
    let tracker := Tracker.ofSettings settings
    let state ← tracker.advance
    if state = .noFiles then postIndicator settings
    let completion ← tracker.completion
    Notice.publish settings completion

/-- What is done at the end of a run with the given result. -/
def afterRun (settings : Settings) : Except Failure Summary → Errand Unit
  | .error _ => Notice.publish settings .unsuccessful
  | .ok _ =>
    tryCatch (complete settings) fun failure => do
      Notice.publish settings .unsuccessful
      throw failure

/-- The result of the whole: the run's failure, or else the failure at its end. -/
def result (run : Except Failure Summary) (closing : Except Failure Unit) :
    Except Failure Summary := do
  let summary ← run
  closing
  return summary

end Closing

/-- A whole run: all objects, then the end. -/
def send (settings : Settings) : Errand Summary := ExceptT.mk do
  let run ← (sendAll settings).run
  let closing ← (Closing.afterRun settings run).run
  return Closing.result run closing

end Courier

import Courier.Call
import Courier.Json.Basic
import Courier.Text.Capital

/-!
The message to the operators at the end of a run. It is published to the monitoring topic; if that
fails the run is none the worse for it.
-/

namespace Courier

/-- A message to the operators. -/
structure Notice where
  severity : String
  kind : String
  sender : String
  title : String
  /-- Further particulars, with their names. -/
  details : List (String × String)
  deriving DecidableEq, Repr

namespace Notice

def ofCompletion (run : ExportRun) (completion : Completion) : Notice where
  severity := if completion = .successful then "Informational" else "High"
  kind := if completion = .unsuccessful then "Error" else "Information"
  sender := "Crown Export Poller"
  title := s!"{Text.capitalise run.snapshotType} - All files sent - {completion.description}"
  details := [("Export date", run.exportDate), ("Correlation Id", run.correlationId)]

def json (notice : Notice) : Json :=
  .object [("severity", .string notice.severity), ("notification_type", .string notice.kind),
    ("slack_username", .string notice.sender), ("title_text", .string notice.title),
    ("custom_elements", .array (notice.details.map fun (key, value) =>
      .object [("key", .string key), ("value", .string value)]))]

def text (notice : Notice) : String := notice.json.text

def topic? (settings : Settings) : Option String :=
  settings.monitoringTopic.filter fun arn => !(Text.trim arn).isEmpty

/-- Publishes the completion. Nothing is published without a topic, for a run that only shows the
    service is alive, or before the export is completed. -/
def publish (settings : Settings) (completion : Completion) : Errand Unit :=
  match topic? settings with
  | none => return ()
  | some arn =>
    if settings.run.isHeartbeat ∨ completion = .notCompleted then return ()
    else
      tryCatch
        (do
          let message := (ofCompletion settings.run completion).text
          let _ : String ← retry settings.retries.notification (Call.publish arn message).errand
          return ())
        fun _ => return ()

end Notice

end Courier

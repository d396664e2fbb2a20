import Courier.Export.Object
import Courier.Export.Topic
import Courier.Settings.Basic

/-!
The headers of a delivery. The ingestion side routes a file by them; what does not depend on the
file comes from the settings of the run.
-/

namespace Courier

structure FileHeaders where
  filename : String
  database : String
  collection : String
  topic : String
  deriving DecidableEq, Repr

namespace FileHeaders

def ofFile (name : String) (topic : Topic) : FileHeaders :=
  ⟨deliveredName name, topic.database, topic.collection, topic.name⟩

/-- All headers of a delivery, in the order in which they are sent. -/
def pairs (headers : FileHeaders) (run : ExportRun) : List (String × String) :=
  [("filename", headers.filename), ("environment", run.environmentLabel),
    ("export_date", run.exportDate), ("database", headers.database),
    ("collection", headers.collection), ("snapshot_type", run.snapshotType),
    ("topic", headers.topic), ("status_table_name", run.statusTable),
    ("correlation_id", run.correlationId), ("s3_prefix", run.objectFolder),
    ("shutdown_flag", toString run.shutdown), ("reprocess_files", toString run.reprocess)]

end FileHeaders

end Courier

import Courier.Backoff
import Courier.Failure

/-!
The settings of a run: which export is sent, where its objects and services are, how its items are
handled and how patient each remote call is. `Settings.check` refuses settings no run can start
with.
-/

namespace Courier

/-- The export a run belongs to. -/
structure ExportRun where
  /-- Shared by all workers of one export. -/
  correlationId : String
  /-- The collection this worker sends. -/
  topicName : String
  exportDate : String
  snapshotType : String
  environment : String
  statusTable : String
  objectFolder : String
  shutdown : Bool
  /-- Deliver objects although a marker says they were delivered. -/
  reprocess : Bool
  deriving DecidableEq, Repr

namespace ExportRun

/-- The export date of runs that only show the service is alive. -/
def heartbeatDate : String := "NIFI_HEARTBEAT"

/-- Whether the run only shows that the service is alive; such runs publish nothing. -/
def isHeartbeat (run : ExportRun) : Bool := run.exportDate == heartbeatDate

/-- The environment as the ingestion side names it. -/
def environmentLabel (run : ExportRun) : String := s!"aws/{run.environment}"

end ExportRun

/-- Where the objects and the markers are. -/
structure Storage where
  bucket : String
  /-- The folder whose objects are sent. -/
  folder : String
  /-- The part of a key that is exchanged to find the marker. -/
  exportRoot : String
  /-- What takes its place. -/
  statusRoot : String
  pathStyle : Bool
  deriving DecidableEq, Repr

structure Handling where
  /-- Items in work at the same time. -/
  workers : Nat
  /-- Rejected items a run may have. -/
  skipLimit : Nat
  blockedTopics : List String
  /-- End the run with the success indicator alone. -/
  indicatorOnly : Bool
  deriving DecidableEq, Repr

/-- A remote HTTP service; timeouts are in milliseconds. -/
structure Endpoint where
  url : String
  connectTimeout : Nat
  readTimeout : Nat
  deriving DecidableEq, Repr

structure CloudAccess where
  region : String
  /-- Takes the place of every service's own endpoint. -/
  endpoint : Option String
  accessKey : Option String
  secretKey : Option String
  deriving DecidableEq, Repr

namespace CloudAccess

/-- The home region and nothing else. -/
def standard : CloudAccess := ⟨"eu-west-2", none, none, none⟩

/-- A stand-in for the cloud services at an endpoint of its own. -/
def standIn (endpoint : String) : CloudAccess :=
  { standard with endpoint := some endpoint, accessKey := some "test", secretKey := some "test" }

end CloudAccess

/-- The retry policy of every kind of remote call. -/
structure RetryPolicies where
  keyService : RetryPolicy
  delivery : RetryPolicy
  objectStore : RetryPolicy
  statusTable : RetryPolicy
  notification : RetryPolicy
  indicator : RetryPolicy
  deriving DecidableEq, Repr

namespace RetryPolicies

def standard : RetryPolicies :=
  ⟨.keyService, .standard, .standard, .standard, .standard, .standard⟩

def once : RetryPolicies := ⟨.once, .once, .once, .once, .once, .once⟩

end RetryPolicies

structure Settings where
  run : ExportRun
  cloud : CloudAccess
  storage : Storage
  keyService : Endpoint
  ingestion : Endpoint
  /-- Where the end of the run is announced, if anywhere. -/
  monitoringTopic : Option String
  handling : Handling
  retries : RetryPolicies
  deriving DecidableEq, Repr

/-- Refuses the first empty text among named ones. -/
def checkPresent : List (String × String) → Except Failure Unit
  | [] => .ok ()
  | (name, value) :: rest =>
    if value.isEmpty then .error ⟨.configuration, .required name⟩ else checkPresent rest

def Storage.check (storage : Storage) : Except Failure Unit :=
  checkPresent [("S3_BUCKET", storage.bucket), ("S3_PREFIX_FOLDER", storage.folder),
    ("S3_HTME_ROOT_FOLDER", storage.exportRoot), ("S3_STATUS_FOLDER", storage.statusRoot)]

/-- Everything a run needs before its first remote call. -/
def Settings.check (settings : Settings) : Except Failure Unit := do
  settings.storage.check
  checkPresent [("CORRELATION_ID", settings.run.correlationId),
    ("TOPIC_NAME", settings.run.topicName),
    ("EXPORT_DATE", settings.run.exportDate), ("DATA_KEY_SERVICE_URL", settings.keyService.url),
    ("NIFI_URL", settings.ingestion.url)]
  if settings.handling.workers = 0 then
    throw ⟨.configuration, .noWorkers⟩

end Courier

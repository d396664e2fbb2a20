import Courier.Http.Url
import Courier.Settings.Basic
import Courier.Settings.Environment

/-!
Reading the settings from the environment, section by section. The first variable whose text means
nothing ends the reading.
-/

namespace Courier

def Storage.read (env : Environment) : Except Failure Storage := do
  return {
    bucket := env.textOr "S3_BUCKET" ""
    folder := env.textOr "S3_PREFIX_FOLDER" ""
    exportRoot := env.textOr "S3_HTME_ROOT_FOLDER" ""
    statusRoot := env.textOr "S3_STATUS_FOLDER" ""
    pathStyle := ← env.flagOr "S3_PATH_STYLE" false }

/-- The run section; its objects lie in `folder`. -/
def ExportRun.read (env : Environment) (folder : String) : Except Failure ExportRun := do
  return {
    correlationId := env.textOr "CORRELATION_ID" ""
    topicName := env.textOr "TOPIC_NAME" ""
    exportDate := env.textOr "EXPORT_DATE" ""
    snapshotType := env.textOr "SNAPSHOT_TYPE" "full"
    environment := env.textOr "ENVIRONMENT" "local"
    statusTable := env.textOr "DYNAMODB_STATUS_TABLE_NAME" "UCExportToCrownStatus"
    objectFolder := folder
    shutdown := ← env.flagOr "SHUTDOWN_FLAG" false
    reprocess := ← env.flagOr "REPROCESS_FILES" false }

def CloudAccess.read (env : Environment) : CloudAccess where
  region := env.textOr "AWS_REGION" CloudAccess.standard.region
  endpoint := env.text? "AWS_ENDPOINT_URL"
  accessKey := env.text? "AWS_ACCESS_KEY_ID"
  secretKey := env.text? "AWS_SECRET_ACCESS_KEY"

/-- The endpoint in use: the one that is set, or else the one the environment names, if that is an
    address. -/
def CloudAccess.endpointIn (access : CloudAccess) (env : Environment) : Option String :=
  access.endpoint.or ((env.raw? "AWS_ENDPOINT_URL").filter Http.Url.isAddress)

/-- A service whose address stands in `name`; all services share their timeout. -/
def Endpoint.read (env : Environment) (name : String) : Except Failure Endpoint := do
  let timeout ← env.count64Or "SOCKET_TIMEOUT_MS" 30000
  return ⟨env.textOr name "", timeout, timeout⟩

def Handling.read (env : Environment) : Except Failure Handling := do
  return {
    workers := ← env.count64Or "THREAD_COUNT" 1
    skipLimit := ← env.count64Or "SKIP_LIMIT" 10
    blockedTopics := env.entries "BLOCKED_TOPICS"
    indicatorOnly := ← env.flagOr "SEND_SUCCESS_INDICATOR" false }

/-- The policy whose variables start with `stem`; what is absent is as in `standard`. -/
def RetryPolicy.read (env : Environment) (stem : String) (standard : RetryPolicy) :
    Except Failure RetryPolicy := do
  let attempts ← env.count32Or (stem ++ "_MAX_ATTEMPTS") standard.maxAttempts.toNat
  let millis ← env.count64Or (stem ++ "_DELAY_MS") (standard.initialDelay / 1000000)
  let multiplier ← env.numberOr (stem ++ "_MULTIPLIER") standard.multiplier
  return ⟨UInt32.ofNat attempts, millis * 1000000, multiplier⟩

def RetryPolicies.read (env : Environment) : Except Failure RetryPolicies := do
  return {
    keyService := ← RetryPolicy.read env "DATA_KEY_RETRY" .keyService
    delivery := ← RetryPolicy.read env "NIFI_RETRY" .standard
    objectStore := ← RetryPolicy.read env "S3_RETRY" .standard
    statusTable := ← RetryPolicy.read env "DYNAMODB_RETRY" .standard
    notification := ← RetryPolicy.read env "SNS_RETRY" .standard
    indicator := ← RetryPolicy.read env "SUCCESS_RETRY" .standard }

def Settings.read (env : Environment) : Except Failure Settings := do
  let storage ← Storage.read env
  let run ← ExportRun.read env storage.folder
  let keyService ← Endpoint.read env "DATA_KEY_SERVICE_URL"
  let ingestion ← Endpoint.read env "NIFI_URL"
  let handling ← Handling.read env
  let retries ← RetryPolicies.read env
  return {
    run, storage, keyService, ingestion, handling, retries
    cloud := CloudAccess.read env
    monitoringTopic := env.text? "TOPIC_ARN_MONITORING" }

end Courier

import Courier.Body.Decryptor
import Courier.Body.Material
import Courier.Export.Marker
import Courier.Status.Tracking

/-!
The work on one object: skip it if its marker is there, else deliver it, write its marker and count
it. Marker and count come only after the ingestion side has accepted the object. A failure that
belongs to the object for good rejects it; any other failure is the caller's.
-/

namespace Courier

inductive ItemOutcome where
  | skipped
  | delivered
  | rejected (reason : Failure)
  deriving DecidableEq, Repr

namespace Item

def markerKey (settings : Settings) (key : String) : String :=
  Marker.key settings.storage.exportRoot settings.storage.statusRoot key

/-- Whether the object counts as delivered already. -/
def alreadySent (settings : Settings) (key : String) : Errand Bool :=
  if settings.run.reprocess then return false
  else retry settings.retries.objectStore (Call.contains (markerKey settings key)).errand

def writeMarker (settings : Settings) (key : String) : Errand String := do
  let marker := markerKey settings key
  let content := (Marker.content key).toUTF8.toList
  retry settings.retries.objectStore
    (Call.put marker content Marker.contentType (Marker.metadata marker key)).errand
  return marker

/-- Reads the object and delivers it once. -/
def attempt (settings : Settings) (key : String) (headers : FileHeaders) : Errand Unit := do
  let object : StoredObject ← retry settings.retries.objectStore (Call.get key).errand
  let envelope ← ExceptT.mk (pure (Envelope.ofMetadata key object.metadata))
  let dataKey : String ← (Call.unwrap envelope.keyId envelope.wrappedKey).errand
  let stream ← ExceptT.mk (pure (Material.keystream ⟨dataKey, envelope.counter⟩))
  (Call.deliver (headers.pairs settings.run) (object.body.decrypted stream)).errand

/-- Delivers the object. Each further attempt reads the object again: a body is read only once. -/
def deliver (settings : Settings) (key : String) : Errand Unit := do
  let name := fileName key
  let topic ← ExceptT.mk (pure (Topic.resolve settings.handling.blockedTopics (plainName name)))
  retryIf settings.retries.delivery Failure.isDeliveryRetryable
    (attempt settings key (.ofFile name topic))

def deliverOrReject (settings : Settings) (key : String) : Errand (Option Failure) :=
  tryCatch (do deliver settings key; return none) fun failure =>
    if failure.isPermanent then return some failure else throw failure

/-- All the work on an object. -/
def process (settings : Settings) (key : String) : Errand ItemOutcome := do
  if ← alreadySent settings key then return .skipped
  match ← deliverOrReject settings key with
  | some reason => return .rejected reason
  | none =>
    let _ ← writeMarker settings key
    (Tracker.ofSettings settings).countSent
    return .delivered

end Item

end Courier

import Courier.Base64
import Courier.Http.Status

/-!
What can go wrong. A failure has a kind, which decides whether it is tried again, charged to one
item or ends the run, and a cause, which says what happened. `Failure.message` is the only place
where either is put into words.
-/

namespace Courier

inductive FailureKind where
  /-- The key service refused the wrapped key. -/
  | keyRejected
  /-- The key service could not be reached or gave no usable answer. -/
  | keyServiceDown
  | metadata
  | blockedTopic
  /-- The data key or initial counter cannot drive the cipher. -/
  | decryption
  | delivery
  | successIndicator
  | objectStore
  | statusTable
  | notification
  | skipBudget
  | configuration
  | internal
  | http
  | io
  | json
  | pattern
  | settingIo
  | serialization
  | missingVariable
  | invalidValue
  | logging
  deriving DecidableEq, Repr

inductive StoreAction where
  | list
  | contains
  | get
  | put
  deriving DecidableEq, Repr

inductive TableAction where
  | read
  | increment
  | update
  | query
  deriving DecidableEq, Repr

inductive Cause where
  /-- A collaborator failed and gave its own account. -/
  | reported (text : String)
  | missingField (key field : String)
  | nameMismatch (name : String)
  | topicBlocked (topic : String)
  | counterNotBase64 (fault : Base64.Fault)
  | keyLength (bytes : Nat)
  | counterLength (keyBytes counterBytes : Nat)
  | bodyNotBase64 (fault : Base64.Fault)
  | emptyKeyPart
  | keyRefused (keyId : String) (status : Http.Status)
  | keyServiceStatus (status : Http.Status)
  | keyServiceSilent (reason : String)
  | keyServiceUnreadable (reason : String)
  | postFailed (filename reason : String)
  | postRefused (filename : String) (status : Http.Status)
  | indicatorNotPosted (filename reason : String)
  | storeCall (action : StoreAction) (key : String)
  | tableCall (action : TableAction)
  | publishCall (arn : String)
  | tooManyRejected (rejected limit : Nat)
  | required (name : String)
  | noWorkers
  | unset (name : String)
  | badValue (name value : String)
  deriving DecidableEq, Repr

structure Failure where
  kind : FailureKind
  cause : Cause
  deriving DecidableEq, Repr

/-- The form of the names of export files, as it is quoted to the operator. -/
def exportNamePattern : String :=
  "^(?:\\w+\\.)?(?P<database>[\\w-]+)\\.(?P<collection>[\\w-]+?)-"
    ++ "(?:\\d\x7b3\x7d-\\d\x7b3\x7d-)?\\d+\\.\\w+\\.\\w+$"

def StoreAction.verb : StoreAction → String
  | .list => "list"
  | .contains => "check existence of"
  | .get => "get"
  | .put => "put"

def TableAction.phrase : TableAction → String
  | .read => "read collection status"
  | .increment => "increment files sent"
  | .update => "update collection status"
  | .query => "query collection statuses"

def Cause.text : Cause → String
  | .reported text => text
  | .missingField key field => s!"Couldn't get the metadata for '{key}': missing '{field}'"
  | .nameMismatch name => s!"Rejecting '{name}': does not match '{exportNamePattern}'"
  | .topicBlocked topic => s!"Provided topic is blocked so cannot be processed: '{topic}'"
  | .counterNotBase64 fault => s!"Initialization vector is not base64: {fault.text}"
  | .keyLength bytes => s!"Data key must be 16, 24 or 32 bytes, got {bytes}"
  | .counterLength keyBytes counterBytes =>
    s!"Invalid key or IV length (key {keyBytes} bytes, IV {counterBytes} bytes)"
  | .bodyNotBase64 fault => fault.text
  | .emptyKeyPart => "Key id and wrapped key must both be supplied"
  | .keyRefused keyId status =>
    s!"Decrypting the wrapped key with key id '{keyId}' returned status {status.text}"
  | .keyServiceStatus status => s!"Data key service returned status {status.text}"
  | .keyServiceSilent reason => s!"Error contacting data key service: {reason}"
  | .keyServiceUnreadable reason => s!"Unreadable data key service response: {reason}"
  | .postFailed filename reason => s!"Failed to post '{filename}': {reason}"
  | .postRefused filename status =>
    s!"Failed to post '{filename}': post returned status code {status.code}"
  | .indicatorNotPosted filename reason => s!"Failed to post success indicator {filename}: {reason}"
  | .storeCall action key => s!"Failed to {action.verb} s3 object '{key}'"
  | .tableCall action => s!"Failed to {action.phrase}"
  | .publishCall arn => s!"Failed to publish to '{arn}'"
  | .tooManyRejected rejected limit => s!"{rejected} items rejected, limit is {limit}"
  | .required name => s!"{name} must be set"
  | .noWorkers => "THREAD_COUNT must be at least 1"
  | .unset name => name
  | .badValue name value => s!"{name}: '{value}'"

namespace FailureKind

/-- What stands in front of the cause. -/
def heading : FailureKind → String
  | keyRejected => "Data key decryption failed: "
  | keyServiceDown => "Data key service unavailable: "
  | metadata => "Invalid object metadata: "
  | blockedTopic => "Topic is blocked: "
  | decryption => "Decryption setup failed: "
  | delivery => "Delivery failed: "
  | successIndicator => "Success indicator failed: "
  | objectStore => "Object store error: "
  | statusTable => "Status table error: "
  | notification => "Notification error: "
  | skipBudget => "Skip budget exhausted: "
  | configuration => "Configuration error: "
  | internal => "Internal error: "
  | http => "HTTP error: "
  | io => "IO error: "
  | json => "JSON error: "
  | pattern => "Regex error: "
  | settingIo => "IO error: "
  | serialization => "Serialization error: "
  | missingVariable => "Missing environment variable: "
  | invalidValue => "Invalid value for "
  | logging => "Logging error: "

/-- Failures that belong to one item for good: it is rejected and the run goes on. -/
def isPermanent : FailureKind → Bool
  | keyRejected | metadata | blockedTopic | decryption => true
  | _ => false

theorem isPermanent_iff {kind : FailureKind} :
    kind.isPermanent ↔ kind ∈ [keyRejected, metadata, blockedTopic, decryption] := by
  cases kind <;> decide

def isKeyServiceRetryable : FailureKind → Bool
  | keyServiceDown => true
  | _ => false

/-- Failures of one delivery attempt after which the object is read and delivered again. -/
def isDeliveryRetryable : FailureKind → Bool
  | delivery | http | io => true
  | _ => false

end FailureKind

namespace Failure

def message (failure : Failure) : String := failure.kind.heading ++ failure.cause.text

/-- Whether the failure belongs to one item for good. -/
def isPermanent (failure : Failure) : Bool := failure.kind.isPermanent

def isKeyServiceRetryable (failure : Failure) : Bool := failure.kind.isKeyServiceRetryable

/-- Whether the object is read and delivered again. -/
def isDeliveryRetryable (failure : Failure) : Bool := failure.kind.isDeliveryRetryable

/-- A setting whose text cannot be read. -/
def badValue (name value : String) : Failure := ⟨.invalidValue, .badValue name value⟩

end Failure

end Courier

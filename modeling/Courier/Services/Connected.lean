import Courier.Services.Bucket
import Courier.Services.Ingestion
import Courier.Services.Keys
import Courier.Services.StatusTable

/-!
A sender whose collaborators are connected services: every call is answered by the steps of the
service it is meant for.
-/

namespace Courier.Services

def publishMessage (arn message : String) : Procedure String := ExceptT.mk do
  let number : Except Refusal (Option String) ← (Step.publish arn message).ask
  match number with
  | .ok number => return .ok (number.getD "")
  | .error _ => return .error ⟨.notification, .publishCall arn⟩

def answer (settings : Settings) : (call : Call) → Program Step.Answer call.Answer
  | .list folder => listFolder settings.storage.bucket folder
  | .contains key => objectExists settings.storage.bucket key
  | .get key => fetchObject settings.storage.bucket key
  | .put key content contentType metadata =>
    storeObject settings.storage.bucket key content contentType metadata
  | .unwrap keyId wrappedKey =>
    unwrapKey settings.keyService settings.retries.keyService keyId wrappedKey
  | .deliver headers body => postFile settings.ingestion headers body
  | .increment correlationId collection =>
    countSent settings.run.statusTable correlationId collection
  | .readRow correlationId collection => readRow settings.run.statusTable correlationId collection
  | .transition correlationId collection expected status =>
    changeStatus settings.run.statusTable correlationId collection expected status
  | .rows correlationId => allRows settings.run.statusTable correlationId
  | .publish arn message => publishMessage arn message

/-- The steps of an errand. -/
def connect {α : Type} (settings : Settings) (errand : Errand α) : Procedure α :=
  Program.serve (answer settings) errand.run

end Courier.Services

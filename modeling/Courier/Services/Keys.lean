import Courier.Json.Record
import Courier.Services.Step
import Courier.Settings.Basic

/-!
The key service. It unwraps a data key for whoever posts it the wrapped key; what it has unwrapped
is remembered, so that objects with the same data key cost one request. That it refuses a wrapped
key is final; whatever else goes wrong, it is asked again.
-/

namespace Courier.Services

def dropSlashes (text : String) : String :=
  String.ofList (text.toList.reverse.dropWhile (· == '/')).reverse

/-- The address that unwraps keys of the given kind. -/
def unwrapAddress (service : Endpoint) (keyId : String) : String :=
  dropSlashes service.url ++ "/datakey/actions/decrypt?keyId=" ++ Text.percentEncode keyId

/-- The data key in the body of a reply, which names the key that wraps it too. -/
def dataKey? (body : List UInt8) : Option String := do
  match ← Json.readRecord? ["dataKeyEncryptionKeyId", "plaintextDataKey"] body with
  | [_, dataKey] => some dataKey
  | _ => none

/-- What a reply of the key service means. -/
def readUnwrapped (keyId : String) (reply : Http.Reply) : Except Failure String :=
  if reply.status.isSuccess then
    match reply.body.bind dataKey? with
    | some dataKey => .ok dataKey
    | none => .error ⟨.keyServiceDown, .keyServiceUnreadable Http.Trouble.unreadable.text⟩
  else if reply.status = .badRequest then .error ⟨.keyRejected, .keyRefused keyId reply.status⟩
  else .error ⟨.keyServiceDown, .keyServiceStatus reply.status⟩

def keyServiceSilent (trouble : Http.Trouble) : Failure :=
  ⟨.keyServiceDown, .keyServiceSilent trouble.text⟩

def requestKey (service : Endpoint) (keyId wrappedKey : String) : Procedure String :=
  match Http.Request.build (unwrapAddress service keyId) [("content-type", "text/plain")]
      [.ok wrappedKey.toUTF8.toList] with
  | .error trouble => throw (keyServiceSilent trouble)
  | .ok request => ExceptT.mk do
    let reply : Except Http.Trouble Http.Reply ← (Step.post request).ask
    match reply with
    | .error trouble => return .error (keyServiceSilent trouble)
    | .ok reply => return readUnwrapped keyId reply

/-- Unwraps a key, unless it is remembered. -/
def unwrapKey (service : Endpoint) (policy : RetryPolicy) (keyId wrappedKey : String) :
    Procedure String := do
  if keyId.isEmpty ∨ wrappedKey.isEmpty then
    throw ⟨.keyRejected, .emptyKeyPart⟩
  let known : Option String ← ExceptT.lift (Step.recallKey keyId wrappedKey).ask
  match known with
  | some dataKey => return dataKey
  | none =>
    let dataKey ← retryIf policy Failure.isKeyServiceRetryable (requestKey service keyId wrappedKey)
    let _ : Unit ← ExceptT.lift (Step.rememberKey keyId wrappedKey dataKey).ask
    return dataKey

end Courier.Services

import Courier.Backoff
import Courier.Body.Basic
import Courier.Export.Headers
import Courier.Status.Basic

/-!
The collaborators of a sender, as the calls it makes to them: the object store, the key service, the
ingestion side, the status table and the monitoring topic. An errand is a program over these calls
that may fail.
-/

namespace Courier

/-- An object as it is fetched. -/
structure StoredObject where
  body : Body
  metadata : Metadata

/-- A call to a collaborator. -/
inductive Call where
  /-- The keys of all objects in a folder. -/
  | list (folder : String)
  /-- Whether there is an object with the key. -/
  | contains (key : String)
  | get (key : String)
  | put (key : String) (content : List UInt8) (contentType : String) (metadata : Metadata)
  /-- The data key that a wrapped key holds. -/
  | unwrap (keyId wrappedKey : String)
  | deliver (headers : List (String × String)) (body : Body)
  /-- Counts one more sent file and gives the new count. -/
  | increment (correlationId collection : String)
  | readRow (correlationId collection : String)
  /-- Gives a row a new status, if it is still as expected; whether it was. -/
  | transition (correlationId collection : String) (expected : StatusRecord) (status : ExportStatus)
  /-- All rows of an export. -/
  | rows (correlationId : String)
  /-- Publishes a message and gives its number. -/
  | publish (arn message : String)

namespace Call

/-- What a call gives if it does not fail. -/
def Value : Call → Type
  | list _ => List String
  | contains _ => Bool
  | get _ => StoredObject
  | put .. => Unit
  | unwrap .. => String
  | deliver .. => Unit
  | increment .. => Int
  | readRow .. => Option StatusRecord
  | transition .. => Bool
  | rows _ => List StatusRecord
  | publish .. => String

/-- The answer to a call. -/
abbrev Answer (call : Call) : Type := Except Failure call.Value

end Call

/-- A program over the collaborators that may fail. -/
abbrev Errand (α : Type) : Type := ExceptT Failure (Program Call.Answer) α

def Call.errand (call : Call) : Errand call.Value := Program.question call

end Courier

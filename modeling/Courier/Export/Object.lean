import Courier.Failure
import Courier.Text.Blank

/-!
Export objects as they are stored: what their keys and metadata say. A key ends with the file's
name, which ends in `.enc` as long as the file is encrypted. The metadata holds what decryption
needs, under names that are compared without regard to letter case.
-/

namespace Courier

/-- The metadata of an object: names and values. -/
abbrev Metadata := List (String × String)

/-- What decryption needs to know of an object. -/
structure Envelope where
  /-- The initial counter in base64. -/
  counter : String
  /-- The key that wraps the data key. -/
  keyId : String
  wrappedKey : String
  deriving DecidableEq, Repr

namespace Envelope

/-- The non-empty value under a name, in any letter case, of an object's metadata. -/
def field (key : String) (metadata : Metadata) (name : String) : Except Failure String :=
  match metadata.find? fun entry => Text.lower entry.1 == Text.lower name with
  | some (_, value) =>
    if value.isEmpty then .error ⟨.metadata, .missingField key name⟩ else .ok value
  | none => .error ⟨.metadata, .missingField key name⟩

def ofMetadata (key : String) (metadata : Metadata) : Except Failure Envelope := do
  let counter ← field key metadata "iv"
  let keyId ← field key metadata "dataKeyEncryptionKeyId"
  let wrappedKey ← field key metadata "cipherText"
  return ⟨counter, keyId, wrappedKey⟩

end Envelope

def encryptedEnding : String := ".enc"

/-- The part of a key behind its last slash. -/
def fileName (key : String) : String :=
  String.ofList (key.toList.reverse.takeWhile (· != '/')).reverse

def plainName (name : String) : String := (Text.dropEnding? encryptedEnding name).getD name

/-- The name under which the ingestion side sees a file: decrypted, and compressed text as
    compressed JSON. -/
def deliveredName (name : String) : String :=
  match Text.dropEnding? ".txt.gz" (plainName name) with
  | some stem => stem ++ ".json.gz"
  | none => plainName name

end Courier

import Courier.Body.Material
import Courier.Call
import Courier.Text.Quoted

/-!
How key material and stored objects are shown in a log. A data key is never shown, and neither is a
body.
-/

namespace Courier

/-- Key material without its data key. -/
def Material.display (material : Material) : String :=
  "DecryptionContext \x7b plaintext_key: " ++ Text.quoted "<redacted>"
    ++ ", initialization_vector: " ++ Text.quoted material.counter ++ " \x7d"

def displayMetadata (metadata : Metadata) : String :=
  "\x7b" ++ String.intercalate ", " (metadata.map fun (name, value) =>
    Text.quoted name ++ ": " ++ Text.quoted value) ++ "\x7d"

/-- An object without its body. -/
def StoredObject.display (object : StoredObject) : String :=
  "StoredObject \x7b user_metadata: " ++ displayMetadata object.metadata ++ ", .. \x7d"

end Courier

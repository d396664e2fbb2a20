import Courier.Aes.Keystream
import Courier.Failure
import Courier.Text.Blank

/-!
What a body is decrypted with: a data key of 16, 24 or 32 bytes and an initial counter of 16 bytes,
which comes as base64. Material of any other kind is refused before a body is looked at.
-/

namespace Courier

structure Material where
  /-- The data key; its UTF-8 bytes are the key. -/
  dataKey : String
  /-- The initial counter in base64, maybe between blanks. -/
  counter : String
  deriving DecidableEq

namespace Material

def bytesOf (s : String) : List UInt8 := s.toUTF8.toList

/-- The keystream of the material. The counter's code is looked at first, then the key's length,
    then the counter's. -/
def keystream (material : Material) : Except Failure Aes.Keystream :=
  let key := bytesOf material.dataKey
  match Base64.decode .required (bytesOf (Text.trim material.counter)) with
  | .error fault => .error ⟨.decryption, .counterNotBase64 fault⟩
  | .ok counter =>
    if key.length ≠ 16 ∧ key.length ≠ 24 ∧ key.length ≠ 32 then
      .error ⟨.decryption, .keyLength key.length⟩
    else if counter.length ≠ 16 then
      .error ⟨.decryption, .counterLength key.length counter.length⟩
    else .ok (.ofKey key counter)

end Material

end Courier

/-!
Percent encoding of a text for use inside a query: the bytes of its UTF-8 form, each as a percent
sign and two uppercase hexadecimal digits, save the unreserved characters, which stay.
-/

namespace Courier.Text

def upperHexDigit (n : Nat) : Char := (Nat.digitChar n).toUpper

/-- A byte as a percent sign and two digits. -/
def percentByte (b : UInt8) : List Char :=
  ['%', upperHexDigit (b.toNat / 16), upperHexDigit (b.toNat % 16)]

/-- Letters, digits, hyphen, full stop, underscore and tilde. -/
def isUnreserved (b : UInt8) : Bool :=
  let c := Char.ofNat b.toNat
  (b < 0x80) && (c.isAlphanum || c == '-' || c == '.' || c == '_' || c == '~')

def percentEncode (s : String) : String :=
  String.ofList (s.toUTF8.toList.flatMap fun b =>
    if isUnreserved b then [Char.ofNat b.toNat] else percentByte b)

end Courier.Text

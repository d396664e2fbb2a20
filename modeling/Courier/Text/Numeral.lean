/-!
Whole numbers in decimal text, with the bounds of a machine word. A numeral is an optional sign and
at least one of the digits `0` to `9`; leading zeros count for nothing.
-/

namespace Courier.Text

def digitValue? (c : Char) : Option Nat :=
  if '0' ≤ c ∧ c ≤ '9' then some (c.toNat - '0'.toNat) else none

/-- The number a text of digits writes, added behind the digits already read. -/
def readDigits (value : Nat) : List Char → Option Nat
  | [] => some value
  | c :: cs => (digitValue? c).bind fun d => readDigits (10 * value + d) cs

/-- The number of a non-empty text of digits. -/
def readNatural? : List Char → Option Nat
  | [] => none
  | c :: cs => readDigits 0 (c :: cs)

/-- An unsigned number below `2 ^ bits`; a plus sign may stand in front. -/
def readUnsigned? (bits : Nat) (s : String) : Option Nat :=
  let digits := match s.toList with
    | '+' :: rest => rest
    | cs => cs
  (readNatural? digits).filter (fun n => n < Nat.pow 2 bits)

/-- A signed number from `-2 ^ (bits - 1)` to `2 ^ (bits - 1) - 1`. -/
def readSigned? (bits : Nat) (s : String) : Option Int :=
  match s.toList with
  | '-' :: rest =>
    ((readNatural? rest).filter (fun n => n ≤ Nat.pow 2 (bits - 1))).map (fun n => -(n : Int))
  | '+' :: rest => ((readNatural? rest).filter (fun n => n < Nat.pow 2 (bits - 1))).map Int.ofNat
  | cs => ((readNatural? cs).filter (fun n => n < Nat.pow 2 (bits - 1))).map Int.ofNat

end Courier.Text

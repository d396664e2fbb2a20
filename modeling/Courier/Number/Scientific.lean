import Courier.Number.Binary64
import Courier.Text.Numeral

/-!
Reading a binary64 number from text: an optional sign, then `inf`, `infinity` or `nan` in any letter
case, or digits with an optional point and an optional exponent. At least one digit stands before or
after the point, and at least one in the exponent. The result is the number nearest to the decimal.
-/

namespace Courier.Scientific

/-- Whether the character is one of `0` to `9`. -/
def isDigit (c : Char) : Bool := (Text.digitValue? c).isSome

/-- The exponent part, which is absent or `e` with an optional sign and digits to the end. -/
def readExponent? : List Char → Option Int
  | [] => some 0
  | c :: cs =>
    if c = 'e' ∨ c = 'E' then
      match cs with
      | '-' :: rest => (Text.readNatural? rest).map fun n => -(n : Int)
      | '+' :: rest => (Text.readNatural? rest).map Int.ofNat
      | rest => (Text.readNatural? rest).map Int.ofNat
    else none

/-- The digits after the point, if there is one, and the text behind them. -/
def fractionDigits : List Char → List Char × List Char
  | '.' :: rest => rest.span isDigit
  | cs => ([], cs)

def readDecimal? (negative : Bool) (cs : List Char) : Option Binary64 :=
  let whole := cs.takeWhile isDigit
  let (fraction, rest) := fractionDigits (cs.dropWhile isDigit)
  (Text.readNatural? (whole ++ fraction)).bind fun digits =>
    (readExponent? rest).map fun exponent =>
      Binary64.ofDecimal negative digits (exponent - fraction.length)

/-- A number without its sign. -/
def readUnsigned? (negative : Bool) (cs : List Char) : Option Binary64 :=
  let word := String.ofList (cs.map Char.toLower)
  if word = "inf" ∨ word = "infinity" then some (.infinite negative)
  else if word = "nan" then some .nan
  else readDecimal? negative cs

/-- The number a text writes. -/
def read? (s : String) : Option Binary64 :=
  match s.toList with
  | '-' :: rest => readUnsigned? true rest
  | '+' :: rest => readUnsigned? false rest
  | cs => readUnsigned? false cs

end Courier.Scientific

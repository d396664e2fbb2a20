/-!
Numbers of the IEEE 754 format binary64. Every finite one is a whole multiple of the least positive
one, `2 ^ -1074`, so a finite number is kept as a sign and a count of those units. Every operation
computes its exact result as a fraction of units and rounds it once, to the nearest representable
number and a tie to the even one.
-/

namespace Courier

/-- The quotient rounded to the nearest whole number, a tie to the even neighbour. -/
def roundQuotient (num den : Nat) : Nat :=
  let q := num / den
  let r := num % den
  if den < 2 * r ∨ (2 * r = den ∧ q % 2 = 1) then q + 1 else q

/-- A binary64 number; all NaNs are one. -/
inductive Binary64 where
  | nan
  | infinite (negative : Bool)
  /-- The number `units * 2 ^ -1074`, negated if `negative`. -/
  | finite (negative : Bool) (units : Nat)
  deriving DecidableEq, Repr, Inhabited

namespace Binary64

/-- Units in the number one. -/
def unitsOfOne : Nat := Nat.pow 2 1074

/-- The first count of units beyond the finite range, those of `2 ^ 1024`. -/
def overflowUnits : Nat := Nat.pow 2 2098

/-- The distance in units between neighbours around `units`: at most 53 significant bits are
    kept. -/
def spacing (units : Nat) : Nat := Nat.pow 2 (units.log2 - 52)

/-- The number nearest to the fraction `num / den` of units. -/
def ofUnits (negative : Bool) (num den : Nat) : Binary64 :=
  let step := spacing (num / den)
  let units := roundQuotient num (den * step) * step
  if units < overflowUnits then finite negative units else infinite negative

/-- The number nearest to `num / den`. -/
def ofRatio (negative : Bool) (num den : Nat) : Binary64 :=
  ofUnits negative (num * unitsOfOne) den

/-- The number nearest to `n`. -/
def ofNat (n : Nat) : Binary64 := ofRatio false n 1

def one : Binary64 := finite false unitsOfOne

/-- The number nearest to `digits * 10 ^ exponent`. A magnitude of 400 decimal places or more is
    beyond every finite number, and one of -400 or less is nearest to zero. -/
def ofDecimal (negative : Bool) (digits : Nat) (exponent : Int) : Binary64 :=
  if digits = 0 then finite negative 0
  else
    let places : Int := (Nat.toDigits 10 digits).length + exponent
    if places ≥ 400 then infinite negative
    else if places ≤ -400 then finite negative 0
    else if exponent ≥ 0 then ofRatio negative (digits * Nat.pow 10 exponent.toNat) 1
    else ofRatio negative digits (Nat.pow 10 (-exponent).toNat)

/-- The product. Zero times an infinity is no number. -/
def mul : Binary64 → Binary64 → Binary64
  | nan, _ => nan
  | _, nan => nan
  | infinite a, infinite b => infinite (a != b)
  | infinite a, finite b units => if units = 0 then nan else infinite (a != b)
  | finite a units, infinite b => if units = 0 then nan else infinite (a != b)
  | finite a m, finite b n => ofUnits (a != b) (m * n) unitsOfOne

/-- The sum. A sum of zeros and an exact cancellation are positive unless both terms are
    negative. -/
def add : Binary64 → Binary64 → Binary64
  | nan, _ => nan
  | _, nan => nan
  | infinite a, infinite b => if a = b then infinite a else nan
  | infinite a, finite _ _ => infinite a
  | finite _ _, infinite b => infinite b
  | finite a m, finite b n =>
    if a = b then ofUnits a (m + n) 1
    else if n < m then ofUnits a (m - n) 1
    else if m < n then ofUnits b (n - m) 1
    else finite false 0

def inverse : Binary64 → Binary64
  | nan => nan
  | infinite negative => finite negative 0
  | finite negative units =>
    if units = 0 then infinite negative else ofUnits negative (unitsOfOne * unitsOfOne) units

/-- The number, or one if it is below one or no number. -/
def atLeastOne : Binary64 → Binary64
  | infinite false => infinite false
  | finite false units => if unitsOfOne < units then finite false units else one
  | _ => one

/-- Squaring and multiplying along the bits of the exponent, lowest first: `acc` collects the
    product and `base` is squared while bits are left. -/
def powerLoop : Nat → Binary64 → Binary64 → Nat → Binary64
  | 0, acc, _, _ => acc
  | fuel + 1, acc, base, exponent =>
    let acc := if exponent % 2 = 1 then mul acc base else acc
    if exponent / 2 = 0 then acc else powerLoop fuel acc (mul base base) (exponent / 2)

/-- A power by repeated squaring, each product rounded; a negative exponent inverts the power. -/
def power (base : Binary64) (exponent : Int) : Binary64 :=
  let magnitude := powerLoop (exponent.natAbs.log2 + 1) one base exponent.natAbs
  if exponent < 0 then inverse magnitude else magnitude

/-- The bits of the interchange format; the exponent field of a normal number counts from one. -/
def toBits : Binary64 → Nat
  | nan => 0x7ff8000000000000
  | infinite negative => (if negative then Nat.pow 2 63 else 0) + 0x7ff0000000000000
  | finite negative units =>
    let sign := if negative then Nat.pow 2 63 else 0
    if units < Nat.pow 2 52 then sign + units
    else
      let shift := units.log2 - 52
      sign + (shift + 1) * Nat.pow 2 52 + (units / Nat.pow 2 shift - Nat.pow 2 52)

end Binary64

end Courier

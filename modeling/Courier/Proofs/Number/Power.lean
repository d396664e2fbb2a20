import Courier.Proofs.Number.Rounding

/-!
Powers by repeated squaring. With a base that is not below one a greater exponent never gives a
smaller power, although every product on the way is rounded: `AtMost.power`.
-/

namespace Courier

namespace Binary64

attribute [local irreducible] unitsOfOne overflowUnits

variable {acc acc' base : Binary64} {fuel fuel' exponent : Nat}

theorem powerLoop_zero (fuel : Nat) (acc base : Binary64) : powerLoop fuel acc base 0 = acc := by
  cases fuel with
  | zero => rfl
  | succ fuel => simp [powerLoop]

/-- One bit of the exponent. -/
theorem powerLoop_succ (fuel : Nat) (acc base : Binary64) (exponent : Nat) :
    powerLoop (fuel + 1) acc base exponent =
      powerLoop fuel (if exponent % 2 = 1 then acc.mul base else acc) (base.mul base)
        (exponent / 2) := by
  rw [powerLoop]
  by_cases hlast : exponent / 2 = 0
  · rw [if_pos hlast, hlast, powerLoop_zero]
  · rw [if_neg hlast]

/-- Once the bits of the exponent are used up, nothing more happens. -/
theorem powerLoop_fuel (h : exponent < 2 ^ fuel) (h' : exponent < 2 ^ fuel') :
    powerLoop fuel acc base exponent = powerLoop fuel' acc base exponent := by
  induction fuel generalizing fuel' acc base exponent with
  | zero =>
    obtain rfl : exponent = 0 := by simpa using h
    rw [powerLoop_zero, powerLoop_zero]
  | succ fuel ih =>
    cases fuel' with
    | zero =>
      obtain rfl : exponent = 0 := by simpa using h'
      rw [powerLoop_zero, powerLoop_zero]
    | succ fuel' =>
      rw [powerLoop_succ, powerLoop_succ]
      rw [Nat.pow_succ] at h h'
      apply ih
      · omega
      · omega

theorem power_natCast (h : exponent < 2 ^ fuel) :
    base.power exponent = powerLoop fuel one base exponent := by
  have hsign : ¬ (exponent : Int) < 0 := by omega
  rw [power, if_neg hsign, Int.natAbs_natCast]
  exact powerLoop_fuel Nat.lt_log2_self h

theorem valid_mul {x y : Binary64} : (x.mul y).Valid := by
  cases x with
  | nan => trivial
  | infinite negative =>
    cases y with
    | nan => trivial
    | infinite negative' => trivial
    | finite negative' units =>
      rw [mul]
      split <;> trivial
  | finite negative units =>
    cases y with
    | nan => trivial
    | infinite negative' =>
      rw [mul]
      split <;> trivial
    | finite negative' units' => exact valid_ofUnits _ _ unitsOfOne_pos

namespace AtMost

theorem one_mul {x y : Binary64} (hx : AtMost one x) (hy : AtMost one y) :
    AtMost one (x.mul y) := by
  have hone : AtMost one one := .finite (Nat.le_refl _)
  have h := AtMost.mul hx hy hone hone
  rwa [Binary64.one_mul valid_one hone] at h

theorem refl_of_one {x : Binary64} (h : AtMost one x) : AtMost x x := by
  cases h with
  | finite hunits => exact .finite (Nat.le_refl _)
  | below => exact .infinite

theorem one_powerLoop (hacc : AtMost one acc) (hbase : AtMost one base) :
    AtMost one (powerLoop fuel acc base exponent) := by
  induction fuel generalizing acc base exponent with
  | zero => exact hacc
  | succ fuel ih =>
    rw [powerLoop_succ]
    apply ih
    · split
      · exact one_mul hacc hbase
      · exact hacc
    · exact one_mul hbase hbase

theorem powerLoop_acc (h : AtMost acc acc') (hacc : AtMost one acc) (hbase : AtMost one base) :
    AtMost (powerLoop fuel acc base exponent) (powerLoop fuel acc' base exponent) := by
  induction fuel generalizing acc acc' base exponent with
  | zero => exact h
  | succ fuel ih =>
    rw [powerLoop_succ, powerLoop_succ]
    have hsquare := one_mul hbase hbase
    by_cases hodd : exponent % 2 = 1
    · rw [if_pos hodd, if_pos hodd]
      exact ih (AtMost.mul h (refl_of_one hbase) hacc hbase) (one_mul hacc hbase) hsquare
    · rw [if_neg hodd, if_neg hodd]
      exact ih h hacc hsquare

theorem one_power (hbase : AtMost one base) : AtMost one (base.power exponent) := by
  rw [power_natCast Nat.lt_log2_self]
  exact one_powerLoop (.finite (Nat.le_refl _)) hbase

/-- What has been collected may be as much as the base, and still one more in the exponent makes up
    for it. -/
theorem powerLoop_add_one (h : AtMost acc base) (hacc : AtMost one acc) (hvalid : base.Valid)
    (hfuel : exponent + 1 < 2 ^ fuel) :
    AtMost (powerLoop fuel acc base exponent) (powerLoop fuel one base (exponent + 1)) := by
  have hbase := hacc.trans h
  induction fuel generalizing acc base exponent with
  | zero => simp at hfuel
  | succ fuel ih =>
    have hsquare := one_mul hbase hbase
    rw [powerLoop_succ, powerLoop_succ]
    rw [Nat.pow_succ] at hfuel
    by_cases hodd : exponent % 2 = 1
    · -- the carry goes on to the next bit
      have hcarry : (exponent + 1) / 2 = exponent / 2 + 1 := by omega
      rw [if_pos hodd, if_neg (by omega), hcarry]
      apply ih
      · exact AtMost.mul h (refl_of_one hbase) hacc hbase
      · exact one_mul hacc hbase
      · exact valid_mul
      · omega
      · exact hsquare
    · have hsame : (exponent + 1) / 2 = exponent / 2 := by omega
      rw [if_neg hodd, if_pos (by omega), hsame, Binary64.one_mul hvalid hbase]
      exact powerLoop_acc h hacc hsquare

theorem power {exponent' : Nat} (hbase : AtMost one base) (hvalid : base.Valid)
    (h : exponent ≤ exponent') : AtMost (base.power exponent) (base.power exponent') := by
  induction h with
  | refl => exact refl_of_one (one_power hbase)
  | @step exponent' hle ih =>
    refine ih.trans ?_
    have hfuel : exponent' + 1 < 2 ^ ((exponent' + 1).log2 + 1) := Nat.lt_log2_self
    rw [power_natCast (Nat.lt_of_succ_lt hfuel), power_natCast hfuel]
    exact powerLoop_add_one hbase (.finite (Nat.le_refl _)) hvalid hfuel

theorem inverse {x : Binary64} (h : AtMost one x) : AtMost x.inverse one := by
  cases x with
  | nan => cases h
  | infinite negative =>
    cases h
    exact .finite (Nat.zero_le _)
  | finite negative units =>
    cases h with
    | finite hunits =>
      have hpos := Nat.lt_of_lt_of_le unitsOfOne_pos hunits
      rw [Binary64.inverse, if_neg (Nat.ne_of_gt hpos)]
      exact ofUnits_bound hpos valid_one (Nat.mul_le_mul_left _ hunits)

/-- A power is at most one if its exponent is not positive. -/
theorem power_le_one {exponent : Int} (hbase : AtMost one base) (h : exponent ≤ 0) :
    AtMost (base.power exponent) one := by
  have hone : AtMost one one := .finite (Nat.le_refl _)
  obtain hneg | rfl := Int.lt_or_eq_of_le h
  · rw [Binary64.power, if_pos hneg]
    exact inverse (one_powerLoop hone hbase)
  · have hzero : base.power 0 = one := powerLoop_zero _ _ _
    rwa [hzero]

end AtMost

end Binary64

end Courier

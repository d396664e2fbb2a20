import Mathlib.Algebra.Group.Nat.Defs
import Courier.Number.Binary64

/-!
Rounding keeps the order. A number that is not below one and at most another one stays so in every
product, whatever is rounded on the way: `AtMost.mul`. A whole number of units with at most 53
significant bits is rounded to itself, and every rounded number is one of these.
-/

namespace Courier

section Quotient

variable {num den bound : Nat}

theorem roundQuotient_le (hden : 0 < den) (h : num ≤ bound * den) :
    roundQuotient num den ≤ bound := by
  have hsplit := Nat.div_add_mod num den
  have hrest := Nat.mod_lt num hden
  have hquotient : num / den ≤ bound := Nat.div_le_of_le_mul (Nat.mul_comm bound den ▸ h)
  unfold roundQuotient
  dsimp only
  split
  · next hup =>
    -- the quotient itself would leave nothing to be rounded up
    refine Nat.lt_of_le_of_ne hquotient fun heq => ?_
    rw [heq, Nat.mul_comm] at hsplit
    omega
  · exact hquotient

theorem le_roundQuotient (hden : 0 < den) (h : bound * den ≤ num) :
    bound ≤ roundQuotient num den := by
  have hquotient : bound ≤ num / den := (Nat.le_div_iff_mul_le hden).2 h
  unfold roundQuotient
  dsimp only
  split <;> omega

theorem roundQuotient_mono {num' : Nat} (h : num ≤ num') :
    roundQuotient num den ≤ roundQuotient num' den := by
  have hsplit := Nat.div_add_mod num den
  have hsplit' := Nat.div_add_mod num' den
  have hquotient : num / den ≤ num' / den := Nat.div_le_div_right h
  obtain hless | hsame := Nat.lt_or_eq_of_le hquotient
  · unfold roundQuotient
    dsimp only
    split <;> split <;> omega
  · unfold roundQuotient
    dsimp only
    rw [hsame] at hsplit ⊢
    split <;> split <;> omega

end Quotient

namespace Binary64

-- both are numbers of hundreds of digits: only what is stated about them is used
attribute [local irreducible] unitsOfOne overflowUnits

section Units

variable {num num' den units bound : Nat}

theorem spacing_pos (units : Nat) : 0 < spacing units := Nat.pow_pos (by decide)

theorem spacing_dvd (h : units ≤ bound) : spacing units ∣ spacing bound := by
  have hlog : units.log2 ≤ bound.log2 := by
    by_cases hzero : units = 0
    · rw [hzero, Nat.log2_zero]
      exact Nat.zero_le _
    · have hbound : bound ≠ 0 := by omega
      rw [Nat.le_log2 hbound]
      exact Nat.le_trans (Nat.log2_self_le hzero) h
  exact Nat.pow_dvd_pow 2 (Nat.sub_le_sub_right hlog 52)

/-- The count of units has at most 53 significant bits. -/
def IsSpaced (units : Nat) : Prop := spacing units ∣ units

instance (units : Nat) : Decidable (IsSpaced units) := inferInstanceAs (Decidable (_ ∣ _))

theorem isSpaced_two_pow (exponent : Nat) : IsSpaced (2 ^ exponent) := by
  unfold IsSpaced spacing
  rw [Nat.log2_two_pow]
  exact Nat.pow_dvd_pow 2 (Nat.sub_le exponent 52)

/-- The units nearest to a fraction of units, however many they are. -/
def roundUnits (num den : Nat) : Nat :=
  roundQuotient num (den * spacing (num / den)) * spacing (num / den)

theorem ofUnits_of_lt (negative : Bool) (h : roundUnits num den < overflowUnits) :
    ofUnits negative num den = finite negative (roundUnits num den) := if_pos h

theorem ofUnits_of_le (negative : Bool) (h : overflowUnits ≤ roundUnits num den) :
    ofUnits negative num den = infinite negative := if_neg (Nat.not_lt.2 h)

theorem roundUnits_le (hden : 0 < den) (hbound : IsSpaced bound) (h : num ≤ bound * den) :
    roundUnits num den ≤ bound := by
  have hquotient : num / den ≤ bound := Nat.div_le_of_le_mul (Nat.mul_comm bound den ▸ h)
  obtain ⟨steps, hsteps⟩ := Nat.dvd_trans (spacing_dvd hquotient) hbound
  have hstep := spacing_pos (num / den)
  rw [roundUnits]
  generalize spacing (num / den) = step at hsteps hstep ⊢
  rw [hsteps, Nat.mul_comm step steps]
  refine Nat.mul_le_mul_right step (roundQuotient_le (Nat.mul_pos hden hstep) ?_)
  rw [hsteps] at h
  calc num ≤ step * steps * den := h
    _ = steps * (den * step) := by ac_rfl

/-- A power of two that is not above a fraction is not above its rounding either. -/
theorem two_pow_log2_le_roundUnits (hden : 0 < den) (hquotient : num / den ≠ 0) :
    2 ^ (num / den).log2 ≤ roundUnits num den := by
  have hpow : 2 ^ (num / den).log2 * den ≤ num :=
    (Nat.le_div_iff_mul_le hden).1 (Nat.log2_self_le hquotient)
  have hstep := spacing_pos (num / den)
  obtain ⟨steps, hsteps⟩ : spacing (num / den) ∣ 2 ^ (num / den).log2 :=
    Nat.pow_dvd_pow 2 (Nat.sub_le _ 52)
  rw [roundUnits]
  generalize spacing (num / den) = step at hsteps hstep ⊢
  rw [hsteps, Nat.mul_comm step steps]
  refine Nat.mul_le_mul_right step (le_roundQuotient (Nat.mul_pos hden hstep) ?_)
  calc steps * (den * step) = step * steps * den := by ac_rfl
    _ ≤ num := hsteps ▸ hpow

theorem roundUnits_mono (hden : 0 < den) (h : num ≤ num') :
    roundUnits num den ≤ roundUnits num' den := by
  have hquotient : num / den ≤ num' / den := Nat.div_le_div_right h
  by_cases hspacing : spacing (num / den) = spacing (num' / den)
  · unfold roundUnits
    rw [hspacing]
    exact Nat.mul_le_mul_right _ (roundQuotient_mono h)
  · -- a power of two lies between the two
    have hlog : (num / den).log2 < (num' / den).log2 := by
      refine Nat.lt_of_not_le fun hle => hspacing ?_
      refine Nat.dvd_antisymm (spacing_dvd hquotient) (Nat.pow_dvd_pow 2 ?_)
      exact Nat.sub_le_sub_right hle 52
    have hzero : num' / den ≠ 0 := by
      intro hzero
      simp [hzero] at hlog
    have hless : num / den < 2 ^ (num' / den).log2 :=
      Nat.lt_of_lt_of_le Nat.lt_log2_self (Nat.pow_le_pow_right (by decide) hlog)
    have hnum : num ≤ 2 ^ (num' / den).log2 * den :=
      Nat.le_of_lt ((Nat.div_lt_iff_lt_mul hden).1 hless)
    exact Nat.le_trans (roundUnits_le hden (isSpaced_two_pow _) hnum)
      (two_pow_log2_le_roundUnits hden hzero)

theorem roundUnits_of_isSpaced (hden : 0 < den) (h : IsSpaced units) :
    roundUnits (units * den) den = units := by
  have hquotient : units * den / den = units := Nat.mul_div_cancel units hden
  have hstep := spacing_pos units
  obtain ⟨steps, hsteps⟩ := h
  refine Nat.le_antisymm (roundUnits_le hden ⟨steps, hsteps⟩ (Nat.le_refl _)) ?_
  rw [roundUnits, hquotient]
  generalize spacing units = step at hsteps hstep ⊢
  rw [hsteps, Nat.mul_comm step steps]
  refine Nat.mul_le_mul_right step (le_roundQuotient (Nat.mul_pos hden hstep) ?_)
  exact Nat.le_of_eq (by ac_rfl)

theorem isSpaced_roundUnits (hden : 0 < den) : IsSpaced (roundUnits num den) := by
  let exponent := (num / den).log2 - 52
  have hspacing : spacing (num / den) = 2 ^ exponent := rfl
  have hbelow : num ≤ 2 ^ 53 * (den * 2 ^ exponent) := by
    have hless : num / den < 2 ^ (53 + exponent) :=
      Nat.lt_of_lt_of_le Nat.lt_log2_self (Nat.pow_le_pow_right (by decide) (by omega))
    calc num ≤ 2 ^ (53 + exponent) * den := Nat.le_of_lt ((Nat.div_lt_iff_lt_mul hden).1 hless)
      _ = 2 ^ 53 * (den * 2 ^ exponent) := by rw [Nat.pow_add]; ac_rfl
  have hsteps : roundQuotient num (den * 2 ^ exponent) ≤ 2 ^ 53 :=
    roundQuotient_le (Nat.mul_pos hden (Nat.two_pow_pos _)) hbelow
  rw [roundUnits, hspacing]
  obtain hless | hfull := Nat.lt_or_eq_of_le hsteps
  · -- fewer than 53 bits of steps: they are at most as far apart
    refine Nat.dvd_trans (Nat.pow_dvd_pow 2 ?_) (Nat.dvd_mul_left _ _)
    by_cases hzero : roundQuotient num (den * 2 ^ exponent) * 2 ^ exponent = 0
    · rw [hzero]
      exact Nat.zero_le _
    · have hunits : roundQuotient num (den * 2 ^ exponent) * 2 ^ exponent < 2 ^ (53 + exponent) := by
        rw [Nat.pow_add]
        exact Nat.mul_lt_mul_of_pos_right hless (Nat.two_pow_pos _)
      have hlog := (Nat.log2_lt hzero).2 hunits
      omega
  · rw [hfull, ← Nat.pow_add]
    exact isSpaced_two_pow _

end Units

/-- The number is one of the format: its units have at most 53 significant bits, and there are not
    too many of them. -/
def Valid : Binary64 → Prop
  | finite _ units => IsSpaced units ∧ units < overflowUnits
  | _ => True

theorem valid_ofUnits (negative : Bool) (num : Nat) {den : Nat} (hden : 0 < den) :
    (ofUnits negative num den).Valid := by
  obtain hless | hle := Nat.lt_or_ge (roundUnits num den) overflowUnits
  · rw [ofUnits_of_lt negative hless]
    exact ⟨isSpaced_roundUnits hden, hless⟩
  · rw [ofUnits_of_le negative hle]
    trivial

theorem valid_ofRatio (negative : Bool) (num : Nat) {den : Nat} (hden : 0 < den) :
    (ofRatio negative num den).Valid :=
  valid_ofUnits negative _ hden

theorem valid_ofNat (n : Nat) : (ofNat n).Valid := valid_ofRatio false n Nat.one_pos

theorem valid_zero (negative : Bool) : (finite negative 0).Valid :=
  ⟨Nat.dvd_zero _, by decide +kernel⟩

theorem unitsOfOne_pos : 0 < unitsOfOne := by decide +kernel

theorem valid_one : one.Valid := ⟨by decide +kernel, by decide +kernel⟩

/-- Neither number is negative, and the second is at least the first. -/
inductive AtMost : Binary64 → Binary64 → Prop
  | finite {units bound : Nat} (h : units ≤ bound) : AtMost (finite false units) (finite false bound)
  | below (units : Nat) : AtMost (finite false units) (infinite false)
  | infinite : AtMost (infinite false) (infinite false)

namespace AtMost

variable {x y z x' y' : Binary64}

theorem trans (h : AtMost x y) (h' : AtMost y z) : AtMost x z := by
  cases h with
  | finite hunits =>
    cases h' with
    | finite hbound => exact .finite (Nat.le_trans hunits hbound)
    | below => exact .below _
  | below =>
    cases h'
    exact .below _
  | infinite => exact h'

theorem ofUnits_infinite (num den : Nat) :
    AtMost (ofUnits false num den) (Binary64.infinite false) := by
  obtain hless | hle := Nat.lt_or_ge (roundUnits num den) overflowUnits
  · rw [ofUnits_of_lt false hless]
    exact .below _
  · rw [ofUnits_of_le false hle]
    exact .infinite

theorem ofUnits {num num' den : Nat} (hden : 0 < den) (h : num ≤ num') :
    AtMost (ofUnits false num den) (ofUnits false num' den) := by
  have hunits := roundUnits_mono hden h
  obtain hless | hle := Nat.lt_or_ge (roundUnits num' den) overflowUnits
  · rw [ofUnits_of_lt false hless, ofUnits_of_lt false (Nat.lt_of_le_of_lt hunits hless)]
    exact .finite hunits
  · rw [ofUnits_of_le false hle]
    exact .ofUnits_infinite num den

/-- Rounding does not lead beyond a number of the format. -/
theorem ofUnits_bound {num den bound : Nat} (hden : 0 < den)
    (hbound : (Binary64.finite false bound).Valid) (h : num ≤ bound * den) :
    AtMost (Binary64.ofUnits false num den) (Binary64.finite false bound) := by
  have hle := roundUnits_le hden hbound.1 h
  rw [ofUnits_of_lt false (Nat.lt_of_le_of_lt hle hbound.2)]
  exact .finite hle

/-- A number that is not below one has units. -/
theorem units_ne_zero {units : Nat} (h : AtMost one (Binary64.finite false units)) : units ≠ 0 := by
  cases h with
  | finite hunits => exact Nat.ne_of_gt (Nat.lt_of_lt_of_le unitsOfOne_pos hunits)

/-- A product with infinity is infinite, unless the other number is zero. -/
theorem mul_infinite (h : AtMost one x) : x.mul (Binary64.infinite false) = Binary64.infinite false ∧
    (Binary64.infinite false).mul x = Binary64.infinite false := by
  cases x with
  | nan => cases h
  | infinite negative =>
    cases h
    exact ⟨rfl, rfl⟩
  | finite negative units =>
    cases negative with
    | true => cases h
    | false =>
      have hne := units_ne_zero h
      simp only [Binary64.mul, if_neg hne]
      exact ⟨rfl, rfl⟩

theorem mul_atMost_infinite (hx : AtMost one x) (hy : AtMost one y) :
    AtMost (x.mul y) (Binary64.infinite false) := by
  cases hx with
  | finite hunits =>
    cases hy with
    | finite hunits' => exact .ofUnits_infinite _ _
    | below =>
      rw [(mul_infinite (.finite hunits)).1]
      exact .infinite
  | below =>
    rw [(mul_infinite hy).2]
    exact .infinite

/-- Products of numbers from one on keep the order. -/
theorem mul (hx : AtMost x x') (hy : AtMost y y') (hone : AtMost one x) (hone' : AtMost one y) :
    AtMost (x.mul y) (x'.mul y') := by
  have hinfinite := mul_atMost_infinite hone hone'
  cases hx with
  | finite hunits =>
    cases hy with
    | finite hunits' => exact .ofUnits unitsOfOne_pos (Nat.mul_le_mul hunits hunits')
    | below | infinite =>
      rw [(mul_infinite (hone.trans (.finite hunits))).1]
      exact hinfinite
  | below | infinite =>
    rw [(mul_infinite (hone'.trans hy)).2]
    exact hinfinite

end AtMost

theorem one_mul {x : Binary64} (hvalid : x.Valid) (h : AtMost one x) : one.mul x = x := by
  cases h with
  | @finite _ units =>
    obtain ⟨hspaced, hless⟩ := hvalid
    have hunits : roundUnits (unitsOfOne * units) unitsOfOne = units := by
      rw [Nat.mul_comm, roundUnits_of_isSpaced unitsOfOne_pos hspaced]
    refine (ofUnits_of_lt _ (hunits.symm ▸ hless)).trans ?_
    rw [hunits]
    rfl
  | below => exact (AtMost.mul_infinite (.finite (Nat.le_refl _))).1

end Binary64

end Courier

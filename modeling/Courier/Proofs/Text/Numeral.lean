import Courier.Text.Numeral

/-!
Decimal text. A whole number is written with its digits, behind a sign if it is negative, and read
back from that; so two numbers are equal just if their texts are.
-/

namespace Courier.Text

theorem digitValue?_of_isDigit {c : Char} (h : c.isDigit) :
    digitValue? c = some (c.toNat - '0'.toNat) := by
  rw [Char.isDigit, Bool.and_eq_true, decide_eq_true_eq, decide_eq_true_eq] at h
  exact if_pos h

theorem readDigits_eq (cs : List Char) (value : Nat) (h : ∀ c ∈ cs, c.isDigit) :
    readDigits value cs = some (Nat.ofDigitChars 10 cs value) := by
  induction cs generalizing value with
  | nil => rfl
  | cons c cs ih =>
    obtain ⟨hc, hcs⟩ := List.forall_mem_cons.1 h
    rw [readDigits, digitValue?_of_isDigit hc, Option.bind_some, ih _ hcs, Nat.ofDigitChars_cons]

theorem isDigit_of_mem_toDigits {n : Nat} {c : Char} (h : c ∈ Nat.toDigits 10 n) : c.isDigit :=
  Nat.isDigit_of_mem_toDigits (by decide) (by decide) h

theorem readNatural?_toDigits (n : Nat) : readNatural? (Nat.toDigits 10 n) = some n := by
  have hread : readDigits 0 (Nat.toDigits 10 n) = some n := by
    rw [readDigits_eq _ _ fun _ => isDigit_of_mem_toDigits, Nat.ofDigitChars_ten_toDigits]
  cases h : Nat.toDigits 10 n with
  | nil => exact absurd h Nat.toDigits_ne_nil
  | cons c cs => rwa [h] at hread

theorem toDigits_ne_cons {n : Nat} {c : Char} (h : c.isDigit = false) (cs : List Char) :
    Nat.toDigits 10 n ≠ c :: cs := by
  intro hcons
  have hdigit : c.isDigit := isDigit_of_mem_toDigits (hcons ▸ List.mem_cons_self)
  rw [h] at hdigit
  cases hdigit

theorem toList_toString (n : Int) :
    (toString n).toList =
      if n < 0 then '-' :: Nat.toDigits 10 n.natAbs else Nat.toDigits 10 n.natAbs := by
  cases n with
  | ofNat n =>
    have hnot : ¬ Int.ofNat n < 0 := Int.not_lt.2 (Int.natCast_nonneg n)
    rw [if_neg hnot]
    exact Nat.toList_repr
  | negSucc n =>
    have hneg : Int.negSucc n < 0 := Int.negSucc_lt_zero n
    rw [if_pos hneg]
    change ("-" ++ Nat.repr (n + 1)).toList = '-' :: Nat.toDigits 10 (n + 1)
    simp only [String.toList_append, Nat.toList_repr]
    rfl

/-- The whole number that a text writes, however long it is. -/
def readInteger? (s : String) : Option Int :=
  match s.toList with
  | '-' :: rest => (readNatural? rest).map fun n => -(n : Int)
  | cs => (readNatural? cs).map Int.ofNat

theorem readInteger?_toString (n : Int) : readInteger? (toString n) = some n := by
  unfold readInteger?
  rw [toList_toString]
  by_cases hneg : n < 0
  · simp only [hneg, if_true, readNatural?_toDigits]
    exact congrArg some (show -(n.natAbs : Int) = n by omega)
  · simp only [hneg, if_false]
    split
    · next hdigits => exact absurd hdigits (toDigits_ne_cons rfl _)
    · simp only [readNatural?_toDigits, Option.map_some, Option.some.injEq, Int.ofNat_eq_natCast]
      omega

theorem toString_inj {m n : Int} : toString m = toString n ↔ m = n := by
  refine ⟨fun h => ?_, fun h => by rw [h]⟩
  have hread := readInteger?_toString m
  rw [h, readInteger?_toString] at hread
  exact (Option.some.inj hread).symm

/-- A number within the bounds of a machine word is read back. -/
theorem readSigned?_toString {bits : Nat} {n : Int} (hlow : -(Nat.pow 2 (bits - 1) : Int) ≤ n)
    (hhigh : n < Nat.pow 2 (bits - 1)) : readSigned? bits (toString n) = some n := by
  unfold readSigned?
  rw [toList_toString]
  generalize Nat.pow 2 (bits - 1) = bound at *
  by_cases hneg : n < 0
  · have hbound : n.natAbs ≤ bound := by omega
    simp only [hneg, if_true, readNatural?_toDigits, Option.filter_some, hbound, decide_true]
    exact congrArg some (show -(n.natAbs : Int) = n by omega)
  · have hbound : n.natAbs < bound := by omega
    simp only [hneg, if_false]
    split
    · next hdigits => exact absurd hdigits (toDigits_ne_cons rfl _)
    · next hdigits => exact absurd hdigits (toDigits_ne_cons rfl _)
    · simp only [readNatural?_toDigits, Option.filter_some, hbound, decide_true, if_true]
      exact congrArg some (show (n.natAbs : Int) = n by omega)

end Courier.Text

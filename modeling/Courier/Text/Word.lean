import Courier.Text.WordTable

/-!
Characters of words. A word character is a letter, mark, decimal digit, connecting punctuation or a
joiner of any script; the full stop and the hyphen are none, and every digit is one.
-/

namespace Courier.Text

def inRanges (ranges : List (Nat × Nat)) (n : Nat) : Bool :=
  ranges.any fun range => range.1 ≤ n && n ≤ range.2

def isWord (c : Char) : Bool := inRanges wordRanges c.toNat

def isDecimal (c : Char) : Bool := inRanges digitRanges c.toNat

def isWordOrHyphen (c : Char) : Bool := isWord c || c == '-'

/-- Whether every range of `inner` lies within a range of `outer`, both being sorted: each range of
    `outer` takes off the ranges it covers. -/
def rangesWithin (inner : List (Nat × Nat)) : List (Nat × Nat) → Bool
  | [] => inner.isEmpty
  | other :: outer =>
    rangesWithin (inner.dropWhile fun range => other.1 ≤ range.1 && range.2 ≤ other.2) outer

theorem exists_covering {inner outer : List (Nat × Nat)} (hwithin : rangesWithin inner outer = true)
    {range : Nat × Nat} (hmem : range ∈ inner) :
    ∃ other ∈ outer, other.1 ≤ range.1 ∧ range.2 ≤ other.2 := by
  induction outer generalizing inner with
  | nil =>
    have hnil : inner = [] := List.isEmpty_iff.1 hwithin
    simp [hnil] at hmem
  | cons other outer ih =>
    let covers : Nat × Nat → Bool := fun range => other.1 ≤ range.1 && range.2 ≤ other.2
    rw [← List.takeWhile_append_dropWhile (p := covers) (l := inner), List.mem_append] at hmem
    rcases hmem with hfront | hback
    · have hcovers : covers range = true := List.all_eq_true.1 List.all_takeWhile range hfront
      simp only [covers, Bool.and_eq_true, decide_eq_true_eq] at hcovers
      exact ⟨other, List.mem_cons_self, hcovers⟩
    · obtain ⟨found, hfound, hcovered⟩ := ih hwithin hback
      exact ⟨found, List.mem_cons_of_mem _ hfound, hcovered⟩

theorem inRanges_of_rangesWithin {inner outer : List (Nat × Nat)} {n : Nat}
    (hwithin : rangesWithin inner outer = true) (hin : inRanges inner n = true) :
    inRanges outer n = true := by
  simp only [inRanges, List.any_eq_true, Bool.and_eq_true, decide_eq_true_eq] at *
  obtain ⟨range, hmem, hlo, hhi⟩ := hin
  obtain ⟨other, hother, hlo', hhi'⟩ := exists_covering hwithin hmem
  exact ⟨other, hother, by omega, by omega⟩

/-- Every decimal digit is a word character. -/
theorem isWord_of_isDecimal {c : Char} (h : isDecimal c = true) : isWord c = true :=
  inRanges_of_rangesWithin (show rangesWithin digitRanges wordRanges = true by decide +kernel) h

theorem isWord_dot : isWord '.' = false := by decide +kernel

theorem isWord_hyphen : isWord '-' = false := by decide +kernel

end Courier.Text

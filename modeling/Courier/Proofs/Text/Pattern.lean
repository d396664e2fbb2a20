import Courier.Proofs.Text.Pieces
import Courier.Text.Word

/-!
Patterns and the match that is preferred. A pattern lists the ways in which it can begin a text in
the order in which they are tried: an optional part is present before it is absent, and a repetition
is as long as possible or, if it is lazy, as short as possible. The first way that reaches the end
of the text is the match, and its groups are what is captured.
-/

namespace Courier

open Text

/-- The classes of characters that patterns are written with. -/
inductive CharClass where
  | word
  | decimal
  | wordOrHyphen
  | only (c : Char)
  deriving DecidableEq, Repr

namespace CharClass

def has : CharClass → Char → Bool
  | word => isWord
  | decimal => isDecimal
  | wordOrHyphen => isWordOrHyphen
  | only c => (· == c)

def text : CharClass → String
  | word => "\\w"
  | decimal => "\\d"
  | wordOrHyphen => "[\\w-]"
  | only '.' => "\\."
  | only c => String.singleton c

/-- What stays behind the runs of a class at the start of a text, the shortest run first. -/
def remainders (cls : CharClass) : List Char → List (List Char)
  | [] => []
  | c :: cs => if cls.has c then cs :: cls.remainders cs else []

end CharClass

/-- Names of groups with what they stand for. -/
abbrev Captures := List (String × List Char)

inductive Pattern where
  | one (cls : CharClass)
  | times (n : Nat) (cls : CharClass)
  | many (cls : CharClass) (lazy : Bool)
  | maybe (p : Pattern)
  | group (name : String) (p : Pattern)
  | seq (p q : Pattern)
  deriving DecidableEq, Repr

namespace Pattern

instance : Append Pattern := ⟨seq⟩

def text : Pattern → String
  | one cls => cls.text
  | times n cls => cls.text ++ "\x7b" ++ toString n ++ "\x7d"
  | many cls lazy => cls.text ++ "+" ++ if lazy then "?" else ""
  | maybe p => "(?:" ++ p.text ++ ")?"
  | group name p => "(?P<" ++ name ++ ">" ++ p.text ++ ")"
  | seq p q => p.text ++ q.text

/-- The ways in which a pattern can begin a text, in the order in which they are tried, each with
    what it captures and what it leaves. -/
def candidates : Pattern → List Char → List (Captures × List Char)
  | one _, [] => []
  | one cls, c :: cs => if cls.has c then [([], cs)] else []
  | times n cls, cs =>
    if n ≤ cs.length ∧ (cs.take n).all cls.has then [([], cs.drop n)] else []
  | many cls lazy, cs =>
    let rests := cls.remainders cs
    (if lazy then rests else rests.reverse).map fun rest => ([], rest)
  | maybe p, cs => p.candidates cs ++ [([], cs)]
  | group name p, cs =>
    (p.candidates cs).map fun (captures, rest) =>
      ((name, cs.take (cs.length - rest.length)) :: captures, rest)
  | seq p q, cs =>
    (p.candidates cs).flatMap fun (captures, rest) =>
      (q.candidates rest).map fun (more, rest) => (captures ++ more, rest)

/-- What the preferred match of the whole text captures. -/
def captures? (p : Pattern) (cs : List Char) : Option Captures :=
  ((p.candidates cs).find? fun candidate => candidate.2.isEmpty).map (·.1)

/-- The texts of a pattern, with what it captures from them. -/
def Matches : Pattern → List Char → Captures → Prop
  | one cls, cs, captures => captures = [] ∧ ∃ c, cs = [c] ∧ cls.has c = true
  | times n cls, cs, captures => captures = [] ∧ cs.length = n ∧ ∀ c ∈ cs, cls.has c = true
  | many cls _, cs, captures => captures = [] ∧ RunOf cls.has cs
  | maybe p, cs, captures => p.Matches cs captures ∨ captures = [] ∧ cs = []
  | group name p, cs, captures => ∃ inner, p.Matches cs inner ∧ captures = (name, cs) :: inner
  | seq p q, cs, captures => ∃ front first back second,
    p.Matches front first ∧ q.Matches back second ∧ cs = front ++ back ∧
      captures = first ++ second

end Pattern

variable {cls : CharClass} {cs front rest : List Char}

theorem CharClass.mem_remainders_iff : rest ∈ cls.remainders cs ↔
    ∃ run, RunOf cls.has run ∧ cs = run ++ rest := by
  induction cs with
  | nil =>
    refine iff_of_false List.not_mem_nil ?_
    rintro ⟨run, hrun, hcs⟩
    exact hrun.1 (List.append_eq_nil_iff.1 hcs.symm).1
  | cons c cs ih =>
    have hcons : (∃ run, RunOf cls.has run ∧ c :: cs = run ++ rest) ↔
        cls.has c = true ∧ (rest = cs ∨ ∃ run, RunOf cls.has run ∧ cs = run ++ rest) := by
      constructor
      · rintro ⟨run, hrun, hcs⟩
        cases run with
        | nil => exact absurd rfl hrun.1
        | cons d run =>
          obtain ⟨rfl, rfl⟩ := List.cons.inj hcs
          obtain ⟨hc, rfl | hrun⟩ := runOf_cons_iff.1 hrun
          · exact ⟨hc, .inl rfl⟩
          · exact ⟨hc, .inr ⟨run, hrun, rfl⟩⟩
      · rintro ⟨hc, rfl | ⟨run, hrun, rfl⟩⟩
        · exact ⟨[c], runOf_cons_iff.2 ⟨hc, .inl rfl⟩, rfl⟩
        · exact ⟨c :: run, runOf_cons_iff.2 ⟨hc, .inr hrun⟩, rfl⟩
    rw [hcons, ← ih, remainders]
    by_cases hc : cls.has c = true
    · rw [if_pos hc, List.mem_cons, and_iff_right hc]
    · rw [if_neg hc]
      exact iff_of_false List.not_mem_nil fun h => hc h.1

theorem CharClass.pairwise_remainders (cls : CharClass) (cs : List Char) :
    (cls.remainders cs).Pairwise fun rest other => other.length < rest.length := by
  induction cs with
  | nil => exact .nil
  | cons c cs ih =>
    by_cases hc : cls.has c = true
    · rw [remainders, if_pos hc]
      refine .cons (fun rest hrest => ?_) ih
      obtain ⟨run, hrun, rfl⟩ := mem_remainders_iff.1 hrest
      rw [List.length_append]
      exact Nat.lt_add_of_pos_left (List.length_pos_iff.2 hrun.1)
    · rw [remainders, if_neg hc]
      exact .nil

namespace Pattern

variable {p q : Pattern} {name : String} {captures : Captures}

/-- The ways that are tried are the texts of the pattern at the start. -/
theorem mem_candidates_iff : (captures, rest) ∈ p.candidates cs ↔
    ∃ front, cs = front ++ rest ∧ p.Matches front captures := by
  induction p generalizing cs rest captures with
  | one cls =>
    cases cs with
    | nil => simp [candidates, Matches]
    | cons c cs =>
      by_cases hc : cls.has c = true
      · simp only [candidates, if_pos hc, List.mem_singleton, Prod.mk.injEq, Matches]
        constructor
        · rintro ⟨rfl, rfl⟩
          exact ⟨[c], rfl, rfl, c, rfl, hc⟩
        · rintro ⟨_, hcs, rfl, d, rfl, -⟩
          exact ⟨rfl, (List.cons.inj hcs).2.symm⟩
      · simp only [candidates, if_neg hc, List.not_mem_nil, Matches, false_iff]
        rintro ⟨_, hcs, -, d, rfl, hd⟩
        exact hc ((List.cons.inj hcs).1 ▸ hd)
  | times n cls =>
    simp only [candidates, List.all_eq_true, Matches]
    constructor
    · intro h
      split at h
      · next hfits =>
        cases List.mem_singleton.1 h
        exact ⟨cs.take n, (List.take_append_drop n cs).symm, rfl,
          List.length_take_of_le hfits.1, hfits.2⟩
      · cases h
    · rintro ⟨front, rfl, rfl, rfl, hfront⟩
      rw [List.take_left, List.drop_left, if_pos ⟨by simp, hfront⟩]
      exact List.mem_singleton_self _
  | many cls lazy =>
    have hmem : rest ∈ (if lazy then cls.remainders cs else (cls.remainders cs).reverse) ↔
        ∃ run, RunOf cls.has run ∧ cs = run ++ rest := by
      rw [← CharClass.mem_remainders_iff]
      cases lazy with
      | true => rfl
      | false => exact List.mem_reverse
    simp only [candidates, List.mem_map, Prod.mk.injEq, Matches]
    constructor
    · rintro ⟨_, h, rfl, rfl⟩
      obtain ⟨run, hrun, hcs⟩ := hmem.1 h
      exact ⟨run, hcs, rfl, hrun⟩
    · rintro ⟨run, hcs, rfl, hrun⟩
      exact ⟨rest, hmem.2 ⟨run, hrun, hcs⟩, rfl, rfl⟩
  | maybe p ih =>
    simp only [candidates, List.mem_append, ih, List.mem_singleton, Prod.mk.injEq, Matches]
    constructor
    · rintro (⟨front, hcs, h⟩ | ⟨rfl, rfl⟩)
      · exact ⟨front, hcs, .inl h⟩
      · exact ⟨[], rfl, .inr ⟨rfl, rfl⟩⟩
    · rintro ⟨front, rfl, h | ⟨rfl, rfl⟩⟩
      · exact .inl ⟨front, rfl, h⟩
      · exact .inr ⟨rfl, rfl⟩
  | group name p ih =>
    simp only [candidates, List.mem_map, Prod.exists, Prod.mk.injEq, ih, Matches]
    constructor
    · rintro ⟨inner, _, ⟨front, rfl, h⟩, rfl, rfl⟩
      exact ⟨front, rfl, inner, h, by simp⟩
    · rintro ⟨front, rfl, inner, h, rfl⟩
      exact ⟨inner, rest, ⟨front, rfl, h⟩, by simp, rfl⟩
  | seq p q ihp ihq =>
    simp only [candidates, List.mem_flatMap, List.mem_map, Prod.exists, Prod.mk.injEq, ihp, ihq,
      Matches]
    constructor
    · rintro ⟨first, _, ⟨front, rfl, hp⟩, second, _, ⟨back, rfl, hq⟩, rfl, rfl⟩
      exact ⟨front ++ back, by simp, front, first, back, second, hp, hq, rfl, rfl⟩
    · rintro ⟨_, rfl, front, first, back, second, hp, hq, rfl, rfl⟩
      exact ⟨first, back ++ rest, ⟨front, by simp, hp⟩, second, rest, ⟨back, rfl, hq⟩, rfl, rfl⟩

section Sequence

variable {c : Char} {n : Nat} {lazy : Bool} {r : Pattern}

theorem matches_append_iff : (p ++ q).Matches cs captures ↔ ∃ front first back second,
    p.Matches front first ∧ q.Matches back second ∧ cs = front ++ back ∧
      captures = first ++ second := Iff.rfl

theorem matches_append_assoc : (p ++ q ++ r).Matches cs captures ↔
    (p ++ (q ++ r)).Matches cs captures := by
  simp only [matches_append_iff]
  constructor
  · rintro ⟨_, _, back, third, ⟨front, first, middle, second, hp, hq, rfl, rfl⟩, hr, rfl, rfl⟩
    exact ⟨front, first, middle ++ back, second ++ third, hp,
      ⟨middle, second, back, third, hq, hr, rfl, rfl⟩, by simp, by simp⟩
  · rintro ⟨front, first, _, _, hp, ⟨middle, second, back, third, hq, hr, rfl, rfl⟩, rfl, rfl⟩
    exact ⟨front ++ middle, first ++ second, back, third,
      ⟨front, first, middle, second, hp, hq, rfl, rfl⟩, hr, by simp, by simp⟩

theorem matches_one_append_iff : (one (.only c) ++ p).Matches cs captures ↔
    ∃ rest, cs = c :: rest ∧ p.Matches rest captures := by
  simp only [matches_append_iff, Matches, CharClass.has, beq_iff_eq]
  constructor
  · rintro ⟨_, _, rest, _, ⟨rfl, _, rfl, rfl⟩, h, rfl, rfl⟩
    exact ⟨rest, rfl, h⟩
  · rintro ⟨rest, rfl, h⟩
    exact ⟨[c], [], rest, captures, ⟨rfl, c, rfl, rfl⟩, h, rfl, rfl⟩

theorem matches_times_append_iff : (times n cls ++ p).Matches cs captures ↔
    ∃ run rest, (run.length = n ∧ ∀ c ∈ run, cls.has c = true) ∧ cs = run ++ rest ∧
      p.Matches rest captures := by
  simp only [matches_append_iff, Matches]
  constructor
  · rintro ⟨run, _, rest, _, ⟨rfl, hrun⟩, h, rfl, rfl⟩
    exact ⟨run, rest, hrun, rfl, h⟩
  · rintro ⟨run, rest, hrun, rfl, h⟩
    exact ⟨run, [], rest, captures, ⟨rfl, hrun⟩, h, rfl, rfl⟩

theorem matches_many_append_iff : (many cls lazy ++ p).Matches cs captures ↔
    ∃ run rest, RunOf cls.has run ∧ cs = run ++ rest ∧ p.Matches rest captures := by
  simp only [matches_append_iff, Matches]
  constructor
  · rintro ⟨run, _, rest, _, ⟨rfl, hrun⟩, h, rfl, rfl⟩
    exact ⟨run, rest, hrun, rfl, h⟩
  · rintro ⟨run, rest, hrun, rfl, h⟩
    exact ⟨run, [], rest, captures, ⟨rfl, hrun⟩, h, rfl, rfl⟩

theorem matches_maybe_append_iff : (maybe p ++ q).Matches cs captures ↔
    (p ++ q).Matches cs captures ∨ q.Matches cs captures := by
  simp only [matches_append_iff, Matches]
  constructor
  · rintro ⟨front, first, back, second, hp | ⟨rfl, rfl⟩, hq, rfl, rfl⟩
    · exact .inl ⟨front, first, back, second, hp, hq, rfl, rfl⟩
    · exact .inr hq
  · rintro (⟨front, first, back, second, hp, hq, rfl, rfl⟩ | hq)
    · exact ⟨front, first, back, second, .inl hp, hq, rfl, rfl⟩
    · exact ⟨[], [], cs, captures, .inr ⟨rfl, rfl⟩, hq, rfl, rfl⟩

end Sequence

/-- The match of a whole text is one of the texts of the pattern. -/
theorem matches_of_captures? (h : p.captures? cs = some captures) : p.Matches cs captures := by
  obtain ⟨⟨_, rest⟩, hfind, rfl⟩ := Option.map_eq_some_iff.1 h
  have hrest : rest = [] := by simpa using List.find?_some hfind
  obtain ⟨front, hcs, hmatches⟩ := mem_candidates_iff.1 (List.mem_of_find?_eq_some hfind)
  rw [hcs, hrest, List.append_nil]
  exact hmatches

theorem captures?_eq_none_iff : p.captures? cs = none ↔ ∀ captures, ¬ p.Matches cs captures := by
  rw [captures?, Option.map_eq_none_iff, List.find?_eq_none]
  constructor
  · intro h captures hmatches
    exact h (captures, []) (mem_candidates_iff.2 ⟨cs, by simp, hmatches⟩) rfl
  · rintro h ⟨captures, rest⟩ hmem hrest
    obtain ⟨front, hcs, hmatches⟩ := mem_candidates_iff.1 hmem
    obtain rfl : rest = [] := List.isEmpty_iff.1 hrest
    rw [hcs, List.append_nil] at h
    exact h captures hmatches

/-- The match of a sequence is that of its first part which is tried first among those that its
    second part can complete. -/
theorem captures?_append : (p ++ q).captures? cs =
    (p.candidates cs).findSome? fun (captures, rest) => (q.captures? rest).map (captures ++ ·) := by
  change Option.map _ (((p.candidates cs).flatMap _).find? _) = _
  rw [List.find?_flatMap, List.map_findSome?]
  refine congrArg (List.findSome? · _) (funext fun candidate => ?_)
  simp only [Function.comp_apply, List.find?_map, Option.map_map, captures?]
  rfl

/-- A lazy group in front captures the shortest run that the rest can complete. -/
theorem captures?_lazy (h : (group name (many cls true) ++ q).captures? cs = some captures) :
    ∃ run rest more, cs = run ++ rest ∧ RunOf cls.has run ∧ q.captures? rest = some more ∧
      captures = (name, run) :: more ∧
      ∀ run' rest' more', cs = run' ++ rest' → RunOf cls.has run' → q.Matches rest' more' →
        run.length ≤ run'.length := by
  rw [captures?_append] at h
  simp only [candidates, if_true, List.map_map, List.findSome?_map] at h
  obtain ⟨before, rest, after, hrests, hrest, hbefore⟩ := List.findSome?_eq_some_iff.1 h
  obtain ⟨run, hrun, rfl⟩ : ∃ run, RunOf cls.has run ∧ cs = run ++ rest :=
    CharClass.mem_remainders_iff.1 (by simp [hrests])
  obtain ⟨more, hmore, rfl⟩ := Option.map_eq_some_iff.1 hrest
  refine ⟨run, rest, more, rfl, hrun, hmore, by simp, fun run' rest' more' hcs hrun' hq => ?_⟩
  have hmem : rest' ∈ before ++ rest :: after := by
    rw [← hrests]
    exact CharClass.mem_remainders_iff.2 ⟨run', hrun', hcs⟩
  have hlength : rest'.length ≤ rest.length := by
    have hsorted := cls.pairwise_remainders (run ++ rest)
    rw [hrests, List.pairwise_append, List.pairwise_cons] at hsorted
    -- a run that was tried before cannot be completed, and one that comes behind is longer
    obtain hmem | hmem := List.mem_append.1 hmem
    · have hnone := Option.map_eq_none_iff.1 (hbefore rest' hmem)
      exact absurd hq (captures?_eq_none_iff.1 hnone more')
    · obtain rfl | hmem := List.mem_cons.1 hmem
      · exact Nat.le_refl _
      · exact Nat.le_of_lt (hsorted.2.1.1 rest' hmem)
  have htotal := congrArg List.length hcs
  rw [List.length_append, List.length_append] at htotal
  omega

end Pattern

end Courier

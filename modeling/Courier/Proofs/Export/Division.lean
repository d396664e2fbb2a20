import Mathlib.Order.Minimal
import Courier.Export.Topic
import Courier.Proofs.Text.Pieces

/-!
The grammar of the names of export files. A name divides into its parts in one way at most. The
segment in front of the endings holds collection and counters, which a hyphen of the collection can
leave open: the collection is then the shortest that counters follow.
-/

namespace Courier.ExportName

open Text

variable {c : Char} {cs segment collection counters : List Char}

theorem isRun_iff {member : Char → Bool} : isRun member cs = true ↔ RunOf member cs := by
  simp [isRun, RunOf]

theorem isDecimal_hyphen : isDecimal '-' = false :=
  Bool.eq_false_iff.2 fun h => by cases (isWord_of_isDecimal h).symm.trans isWord_hyphen

theorem isWordOrHyphen_dot : isWordOrHyphen '.' = false := by
  rw [isWordOrHyphen, isWord_dot]
  rfl

theorem isWordOrHyphen_of_isDecimal (h : isDecimal c = true) : isWordOrHyphen c = true := by
  rw [isWordOrHyphen, isWord_of_isDecimal h, Bool.true_or]

/-- Three digits. -/
def Triple (cs : List Char) : Prop := cs.length = 3 ∧ ∀ c ∈ cs, isDecimal c = true

/-- Counters: a number, behind two groups of three digits or alone. -/
inductive Counters : List Char → Prop
  | number {number : List Char} (h : RunOf isDecimal number) : Counters number
  | grouped {first second number : List Char} (hfirst : Triple first) (hsecond : Triple second)
      (hnumber : RunOf isDecimal number) : Counters (first ++ '-' :: (second ++ '-' :: number))

theorem Triple.not_mem (h : Triple cs) : '-' ∉ cs := fun hmem => by
  cases isDecimal_hyphen.symm.trans (h.2 '-' hmem)

theorem Counters.isWordOrHyphen (h : Counters counters) :
    ∀ c ∈ counters, isWordOrHyphen c = true := by
  have hhyphen : Text.isWordOrHyphen '-' = true := Bool.or_true _
  intro c hc
  cases h with
  | number h => exact isWordOrHyphen_of_isDecimal (h.2 c hc)
  | grouped hfirst hsecond hnumber =>
    simp only [List.mem_append, List.mem_cons] at hc
    obtain hc | rfl | hc | rfl | hc := hc
    · exact isWordOrHyphen_of_isDecimal (hfirst.2 c hc)
    · exact hhyphen
    · exact isWordOrHyphen_of_isDecimal (hsecond.2 c hc)
    · exact hhyphen
    · exact isWordOrHyphen_of_isDecimal (hnumber.2 c hc)

/-- Counters have one piece or three. -/
theorem counters_iff_cut : Counters cs ↔ cut '-' cs = [cs] ∧ RunOf isDecimal cs ∨
    ∃ first second number, cut '-' cs = [first, second, number] ∧ Triple first ∧ Triple second ∧
      RunOf isDecimal number := by
  constructor
  · rintro (h | @⟨first, second, number, hfirst, hsecond, hnumber⟩)
    · exact .inl ⟨cut_eq_self (h.not_mem isDecimal_hyphen), h⟩
    · refine .inr ⟨first, second, number, ?_, hfirst, hsecond, hnumber⟩
      rw [cut_append, cut_append, cut_eq_self hfirst.not_mem, cut_eq_self hsecond.not_mem,
        cut_eq_self (hnumber.not_mem isDecimal_hyphen)]
      rfl
  · rintro (⟨-, h⟩ | ⟨first, second, number, hcut, hfirst, hsecond, hnumber⟩)
    · exact .number h
    · obtain ⟨-, -, rfl⟩ := cut_eq_iff.1 hcut
      simpa [List.intercalate] using Counters.grouped hfirst hsecond hnumber

theorem isCounters_iff : isCounters cs = true ↔ Counters cs := by
  rw [counters_iff_cut]
  unfold isCounters
  split
  · next number hcut =>
    obtain rfl : number = cs := by
      simpa [List.intercalate_singleton] using (cut_eq_iff.1 hcut).2.2
    simp [hcut, isRun_iff]
  · next first second number hcut =>
    simp [hcut, isRun_iff, Triple, and_assoc]
  · next hone hthree =>
    refine iff_of_false Bool.false_ne_true ?_
    rintro (⟨hcut, -⟩ | ⟨first, second, number, hcut, -⟩)
    · exact hone cs hcut
    · exact hthree first second number hcut

/-- Counters in front of which there is text that reads as counters together with them follow a
    group of digits. -/
theorem Counters.exists_of_append {back : List Char} (hcounters : Counters counters)
    (h : Counters (back ++ '-' :: counters)) :
    ∃ first second, back = first ++ '-' :: second ∧ Counters second := by
  have hpieces (front : List Char) : 0 < (cut '-' front).length :=
    List.length_pos_iff.2 cut_ne_nil
  obtain ⟨hwhole, -⟩ | ⟨first, second, number, hwhole, hfirst, hsecond, hnumber⟩ :=
    counters_iff_cut.1 h
  · have hcut : cut '-' (back ++ '-' :: counters) = cut '-' back ++ cut '-' counters :=
      cut_append back counters
    have hlength := congrArg List.length hcut
    rw [hwhole, List.length_append, List.length_singleton] at hlength
    have hback := hpieces back
    have hcounters := hpieces counters
    omega
  · rw [cut_append] at hwhole
    obtain ⟨hone, -⟩ | ⟨_, _, _, hthree, -⟩ := counters_iff_cut.1 hcounters
    · rw [hone] at hwhole
      have hpair : cut '-' back ++ [counters] = [first, second] ++ [number] := hwhole
      have hcut := List.append_inj_left' hpair rfl
      obtain ⟨-, -, rfl⟩ := cut_eq_iff.1 hcut
      refine ⟨first, second, by simp [List.intercalate], .number ⟨?_, hsecond.2⟩⟩
      rintro rfl
      cases hsecond.1
    · have hlength := congrArg List.length hwhole
      rw [hthree, List.length_append] at hlength
      have hback := hpieces back
      simp only [List.length_cons, List.length_nil] at hlength
      omega

/-- A segment is a collection, a hyphen and counters. -/
def SplitsAt (segment collection : List Char) : Prop :=
  RunOf isWordOrHyphen collection ∧
    ∃ counters, Counters counters ∧ segment = collection ++ '-' :: counters

/-- No shorter collection leaves counters behind it. -/
def IsShortest (segment collection : List Char) : Prop :=
  SplitsAt segment collection ∧ ∀ other, SplitsAt segment other → collection.length ≤ other.length

theorem SplitsAt.isPrefix (h : SplitsAt segment collection) : collection <+: segment := by
  obtain ⟨-, counters, -, rfl⟩ := h
  exact List.prefix_append _ _

theorem not_splitsAt_nil : ¬ SplitsAt segment [] := fun h => h.1.1 rfl

/-- A collection ends behind its first character, or goes on. -/
theorem splitsAt_cons_iff : SplitsAt (c :: cs) (c :: collection) ↔ isWordOrHyphen c = true ∧
    (collection = [] ∧ (∃ counters, Counters counters ∧ cs = '-' :: counters) ∨
      SplitsAt cs collection) := by
  simp only [SplitsAt, List.cons_append, List.cons.injEq, true_and, runOf_cons_iff, and_assoc]
  refine and_congr_right fun _ => ?_
  constructor
  · rintro ⟨rfl | hrun, hcounters⟩
    · exact .inl ⟨rfl, hcounters⟩
    · exact .inr ⟨hrun, hcounters⟩
  · rintro (⟨rfl, hcounters⟩ | ⟨hrun, hcounters⟩)
    · exact ⟨.inl rfl, hcounters⟩
    · exact ⟨.inr hrun, hcounters⟩

theorem SplitsAt.eq_cons (h : SplitsAt (c :: cs) collection) :
    ∃ rest, collection = c :: rest := by
  cases collection with
  | nil => exact absurd h not_splitsAt_nil
  | cons d rest =>
    obtain ⟨hd, -⟩ := List.cons_prefix_cons.1 h.isPrefix
    exact ⟨rest, by rw [hd]⟩

/-- Counters behind the first character leave that character alone as the collection. -/
theorem isShortest_cons_of_counters (hc : isWordOrHyphen c = true) (h : Counters counters) :
    IsShortest (c :: '-' :: counters) collection ↔ collection = [c] := by
  have hsplit : SplitsAt (c :: '-' :: counters) [c] :=
    splitsAt_cons_iff.2 ⟨hc, .inl ⟨rfl, counters, h, rfl⟩⟩
  constructor
  · rintro ⟨hsplits, hmin⟩
    obtain ⟨rest, rfl⟩ := hsplits.eq_cons
    have hlength : rest.length = 0 := Nat.le_zero.1 (Nat.le_of_succ_le_succ (hmin [c] hsplit))
    rw [List.length_eq_zero_iff.1 hlength]
  · rintro rfl
    refine ⟨hsplit, fun other hother => ?_⟩
    obtain ⟨rest, rfl⟩ := hother.eq_cons
    exact Nat.succ_le_succ (Nat.zero_le _)

theorem isShortest_cons_iff (hc : isWordOrHyphen c = true)
    (hnot : ¬ ∃ counters, Counters counters ∧ cs = '-' :: counters) :
    IsShortest (c :: cs) collection ↔ ∃ rest, IsShortest cs rest ∧ c :: rest = collection := by
  have hcons (rest : List Char) : SplitsAt (c :: cs) (c :: rest) ↔ SplitsAt cs rest := by
    simp [splitsAt_cons_iff, hc, hnot]
  constructor
  · rintro ⟨hsplit, hmin⟩
    obtain ⟨rest, rfl⟩ := hsplit.eq_cons
    exact ⟨rest, ⟨(hcons rest).1 hsplit, fun other hother =>
      Nat.le_of_succ_le_succ (hmin (c :: other) ((hcons other).2 hother))⟩, rfl⟩
  · rintro ⟨rest, ⟨hsplit, hmin⟩, rfl⟩
    refine ⟨(hcons rest).2 hsplit, fun other hother => ?_⟩
    obtain ⟨tail, rfl⟩ := hother.eq_cons
    exact Nat.succ_le_succ (hmin tail ((hcons tail).1 hother))

theorem collection?_cons_of_counters (hc : isWordOrHyphen c = true) (h : Counters counters) :
    collection? (c :: '-' :: counters) = some [c] := by
  rw [collection?, if_neg (by simp [hc])]
  exact if_pos (isCounters_iff.2 h)

theorem collection?_cons (hc : isWordOrHyphen c = true)
    (hnot : ¬ ∃ counters, Counters counters ∧ cs = '-' :: counters) :
    collection? (c :: cs) = (collection? cs).map (c :: ·) := by
  rw [collection?.eq_def]
  simp only [hc, Bool.not_true, Bool.false_eq_true, if_false]
  split
  · next rest =>
    rw [if_neg fun hcounters => hnot ⟨rest, isCounters_iff.1 hcounters, rfl⟩]
  · rfl

/-- The collection that is read is the shortest there is. -/
theorem collection?_eq_some_iff : collection? segment = some collection ↔
    IsShortest segment collection := by
  induction segment generalizing collection with
  | nil =>
    refine iff_of_false (by simp [collection?]) fun h => ?_
    have hnil : collection = [] := List.prefix_nil.1 h.1.isPrefix
    subst hnil
    exact not_splitsAt_nil h.1
  | cons c cs ih =>
    by_cases hc : isWordOrHyphen c = true
    · -- counters behind a hyphen end the collection here; otherwise it is one longer than that of cs
      by_cases hends : ∃ counters, Counters counters ∧ cs = '-' :: counters
      · obtain ⟨counters, hcounters, rfl⟩ := hends
        rw [collection?_cons_of_counters hc hcounters, isShortest_cons_of_counters hc hcounters,
          Option.some.injEq, eq_comm]
      · rw [collection?_cons hc hends, isShortest_cons_iff hc hends, Option.map_eq_some_iff]
        simp only [ih]
    · refine iff_of_false (by simp [collection?, hc]) fun h => hc ?_
      obtain ⟨rest, rfl⟩ := h.1.eq_cons
      exact (splitsAt_cons_iff.1 h.1).1

theorem SplitsAt.exists_shortest (h : SplitsAt segment collection) :
    ∃ shortest, IsShortest segment shortest := by
  obtain ⟨shortest, hsplit, hmin⟩ :=
    exists_minimalFor_of_wellFoundedLT (SplitsAt segment) List.length ⟨collection, h⟩
  exact ⟨shortest, hsplit, fun other hother =>
    (le_total shortest.length other.length).elim id (hmin hother)⟩

/-- The parts of a name `[label.]database.segment.first.second`. -/
structure Division where
  label : Option (List Char)
  database : List Char
  segment : List Char
  first : List Char
  second : List Char

namespace Division

variable {division other : Division} {name : List Char}

def pieces (division : Division) : List (List Char) :=
  division.label.toList ++
    [division.database, division.segment, division.first, division.second]

/-- Every part is a text of its own form. -/
structure Valid (division : Division) : Prop where
  label : ∀ label ∈ division.label, RunOf isWord label
  database : RunOf isWordOrHyphen division.database
  segment : ∃ collection, SplitsAt division.segment collection
  first : RunOf isWord division.first
  second : RunOf isWord division.second

/-- The name is the parts with full stops between them. -/
def Divides (division : Division) (name : List Char) : Prop :=
  division.Valid ∧ name = ['.'].intercalate division.pieces

theorem Valid.not_mem (h : division.Valid) : ∀ piece ∈ division.pieces, '.' ∉ piece := by
  intro piece hpiece
  simp only [pieces, List.mem_append, Option.mem_toList, List.mem_cons, List.not_mem_nil,
    or_false] at hpiece
  obtain hlabel | rfl | rfl | rfl | rfl := hpiece
  · exact (h.label piece hlabel).not_mem isWord_dot
  · exact h.database.not_mem isWordOrHyphen_dot
  · obtain ⟨collection, hrun, counters, hcounters, hsegment⟩ := h.segment
    rw [hsegment, List.mem_append, List.mem_cons]
    rintro (hmem | hdot | hmem)
    · exact hrun.not_mem isWordOrHyphen_dot hmem
    · cases hdot
    · cases isWordOrHyphen_dot.symm.trans (hcounters.isWordOrHyphen '.' hmem)
  · exact h.first.not_mem isWord_dot
  · exact h.second.not_mem isWord_dot

theorem Divides.cut_eq (h : Divides division name) : cut '.' name = division.pieces :=
  cut_eq_iff.2 ⟨by simp [pieces], h.1.not_mem, h.2.symm⟩

theorem pieces_inj (h : division.pieces = other.pieces) : division = other := by
  obtain ⟨label, database, segment, first, second⟩ := division
  obtain ⟨label', database', segment', first', second'⟩ := other
  cases label <;> cases label' <;> simp_all [pieces]

/-- A name has one division at most. -/
theorem Divides.unique (h : Divides division name) (h' : Divides other name) : other = division :=
  pieces_inj (h'.cut_eq.symm.trans h.cut_eq)

end Division

section Reading

open Division

variable {name : List Char}

theorem readPieces?_eq_some_iff {pieces : List (List Char)} {database collection : List Char} :
    readPieces? pieces = some (database, collection) ↔
      ∃ segment first second, pieces = [database, segment, first, second] ∧
        RunOf isWordOrHyphen database ∧ RunOf isWord first ∧ RunOf isWord second ∧
        IsShortest segment collection := by
  constructor
  · intro h
    unfold readPieces? at h
    split at h
    · next database' segment first second =>
      obtain ⟨hruns, h⟩ := Option.ite_none_right_eq_some.1 h
      obtain ⟨collection', hcollection, heq⟩ := Option.map_eq_some_iff.1 h
      cases heq
      simp only [Bool.and_eq_true, isRun_iff] at hruns
      exact ⟨segment, first, second, rfl, hruns.1.1, hruns.1.2, hruns.2,
        collection?_eq_some_iff.1 hcollection⟩
    · cases h
  · rintro ⟨segment, first, second, rfl, hdatabase, hfirst, hsecond, hshortest⟩
    rw [readPieces?, isRun_iff.2 hdatabase, isRun_iff.2 hfirst, isRun_iff.2 hsecond,
      collection?_eq_some_iff.2 hshortest]
    rfl

/-- Reading a name gives the database and the collection of its division. -/
theorem read?_eq_some_iff {database collection : List Char} :
    read? name = some (database, collection) ↔
      ∃ division, Divides division name ∧ division.database = database ∧
        IsShortest division.segment collection := by
  constructor
  · intro h
    unfold read? at h
    split at h
    · next label database' segment first second hcut =>
      obtain ⟨hlabel, h⟩ := Option.ite_none_right_eq_some.1 h
      obtain ⟨segment', first', second', heq, hdatabase, hfirst, hsecond, hshortest⟩ :=
        readPieces?_eq_some_iff.1 h
      cases heq
      refine ⟨⟨some label, database, segment, first, second⟩, ⟨⟨?_, hdatabase,
        ⟨collection, hshortest.1⟩, hfirst, hsecond⟩, (cut_eq_iff.1 hcut).2.2.symm⟩, rfl, hshortest⟩
      rintro _ ⟨⟩
      exact isRun_iff.1 hlabel
    · obtain ⟨segment, first, second, hcut, hdatabase, hfirst, hsecond, hshortest⟩ :=
        readPieces?_eq_some_iff.1 h
      exact ⟨⟨none, database, segment, first, second⟩, ⟨⟨nofun, hdatabase,
        ⟨collection, hshortest.1⟩, hfirst, hsecond⟩, (cut_eq_iff.1 hcut).2.2.symm⟩, rfl, hshortest⟩
  · rintro ⟨⟨label, database, segment, first, second⟩, h, rfl, hshortest⟩
    have hread : readPieces? [database, segment, first, second] = some (database, collection) :=
      readPieces?_eq_some_iff.2
        ⟨segment, first, second, rfl, h.1.database, h.1.first, h.1.second, hshortest⟩
    rw [read?, h.cut_eq]
    cases label with
    | none => exact hread
    | some label => exact (if_pos (isRun_iff.2 (h.1.label label rfl))).trans hread

theorem read?_eq_none_iff : read? name = none ↔ ∀ division, ¬ Divides division name := by
  constructor
  · intro h division hdivides
    obtain ⟨collection, hsplit⟩ := hdivides.1.segment
    obtain ⟨shortest, hshortest⟩ := hsplit.exists_shortest
    cases h.symm.trans (read?_eq_some_iff.2 ⟨division, hdivides, rfl, hshortest⟩)
  · intro h
    rw [Option.eq_none_iff_forall_ne_some]
    rintro ⟨database, collection⟩ hread
    obtain ⟨division, hdivides, -⟩ := read?_eq_some_iff.1 hread
    exact h division hdivides

end Reading

end Courier.ExportName

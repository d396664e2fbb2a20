import Courier.Proofs.Export.Division
import Courier.Proofs.Text.Pattern

/-!
The pattern that is quoted for names that cannot be read. Reading a name by its full stops and
hyphens gives what the preferred match of that pattern captures, so the pattern is a fair account of
the names that are accepted.
-/

namespace Courier

open Text

namespace ExportName

open Pattern Division

variable {cs name : List Char} {captures : Captures}

abbrev dot : Pattern := one (.only '.')

abbrev hyphen : Pattern := one (.only '-')

/-- Label and database, with the full stop behind them. -/
def databasePattern : Pattern :=
  maybe (many .word false ++ dot) ++ (group "database" (many .wordOrHyphen false) ++ dot)

def countersPattern : Pattern :=
  maybe (times 3 .decimal ++ (hyphen ++ (times 3 .decimal ++ hyphen))) ++ many .decimal false

/-- All that follows the collection. -/
def endPattern : Pattern :=
  hyphen ++ (countersPattern ++ (dot ++ (many .word false ++ (dot ++ many .word false))))

def pattern : Pattern :=
  databasePattern ++ (group "collection" (many .wordOrHyphen true) ++ endPattern)

/-- The pattern is the one that is quoted. -/
theorem text_pattern : "^" ++ pattern.text ++ "$" = exportNamePattern := by decide

theorem matches_counters_append_iff {p : Pattern} :
    (countersPattern ++ p).Matches cs captures ↔
      ∃ counters rest, Counters counters ∧ cs = counters ++ rest ∧ p.Matches rest captures := by
  simp only [countersPattern, matches_append_assoc, matches_maybe_append_iff,
    matches_times_append_iff, matches_one_append_iff, matches_many_append_iff, CharClass.has]
  constructor
  · rintro (⟨first, _, hfirst, rfl, _, rfl, second, _, hsecond, rfl, _, rfl, number, rest, hnumber,
      rfl, h⟩ | ⟨number, rest, hnumber, rfl, h⟩)
    · exact ⟨_, rest, .grouped hfirst hsecond hnumber, by simp, h⟩
    · exact ⟨number, rest, .number hnumber, rfl, h⟩
  · rintro ⟨_, rest, hnumber | @⟨first, second, number, hfirst, hsecond, hnumber⟩, rfl, h⟩
    · exact .inr ⟨_, rest, hnumber, rfl, h⟩
    · exact .inl ⟨first, _, hfirst, List.append_assoc .., _, rfl, second, _, hsecond,
        List.append_assoc .., _, rfl, number, rest, hnumber, rfl, h⟩

theorem matches_endPattern_iff : endPattern.Matches cs captures ↔ captures = [] ∧
    ∃ counters first second, Counters counters ∧ RunOf isWord first ∧ RunOf isWord second ∧
      cs = '-' :: (counters ++ '.' :: (first ++ '.' :: second)) := by
  simp only [endPattern, matches_one_append_iff, matches_counters_append_iff,
    matches_many_append_iff, Matches, CharClass.has]
  constructor
  · rintro ⟨_, rfl, counters, _, hcounters, rfl, _, rfl, first, _, hfirst, rfl, second, rfl, rfl,
      hsecond⟩
    exact ⟨rfl, counters, first, second, hcounters, hfirst, hsecond, rfl⟩
  · rintro ⟨rfl, counters, first, second, hcounters, hfirst, hsecond, rfl⟩
    exact ⟨_, rfl, counters, _, hcounters, rfl, _, rfl, first, _, hfirst, rfl, second, rfl, rfl,
      hsecond⟩

theorem matches_databasePattern_iff : databasePattern.Matches cs captures ↔
    ∃ (label : Option (List Char)) (database : List Char),
      (∀ l ∈ label, RunOf isWord l) ∧ RunOf isWordOrHyphen database ∧
      captures = [("database", database)] ∧
      cs = ['.'].intercalate (label.toList ++ [database, []]) := by
  have hgroup {cs : List Char} {captures : Captures} :
      (group "database" (many .wordOrHyphen false) ++ dot).Matches cs captures ↔
        ∃ database, RunOf isWordOrHyphen database ∧ captures = [("database", database)] ∧
          cs = database ++ ['.'] := by
    simp only [matches_append_iff, Matches, CharClass.has, beq_iff_eq]
    constructor
    · rintro ⟨database, _, _, _, ⟨_, ⟨rfl, h⟩, rfl⟩, ⟨rfl, _, rfl, rfl⟩, rfl, rfl⟩
      exact ⟨database, h, rfl, rfl⟩
    · rintro ⟨database, h, rfl, rfl⟩
      exact ⟨database, _, _, _, ⟨_, ⟨rfl, h⟩, rfl⟩, ⟨rfl, _, rfl, rfl⟩, rfl, rfl⟩
  simp only [databasePattern, matches_maybe_append_iff, matches_append_assoc,
    matches_many_append_iff, matches_one_append_iff, hgroup, CharClass.has]
  constructor
  · rintro (⟨label, _, hlabel, rfl, _, rfl, database, h, rfl, rfl⟩ | ⟨database, h, rfl, rfl⟩)
    · exact ⟨some label, database, by simpa using hlabel, h, rfl, by simp [List.intercalate]⟩
    · exact ⟨none, database, by simp, h, rfl, by simp [List.intercalate]⟩
  · rintro ⟨_ | label, database, hlabel, h, rfl, rfl⟩
    · exact .inr ⟨database, h, rfl, by simp [List.intercalate]⟩
    · exact .inl ⟨label, _, hlabel label rfl, by simp [List.intercalate], _, rfl, database, h, rfl,
        rfl⟩

theorem intercalate_pieces (division : Division) : ['.'].intercalate division.pieces =
    ['.'].intercalate (division.label.toList ++ [division.database, []]) ++
      (division.segment ++ '.' :: (division.first ++ '.' :: division.second)) := by
  obtain ⟨label, database, segment, first, second⟩ := division
  cases label <;> simp [pieces, List.intercalate]

/-- Every name that divides is a text of the pattern. -/
theorem matches_pattern_of_divides {division : Division} (h : Divides division name) :
    ∃ captures, pattern.Matches name captures := by
  obtain ⟨hvalid, rfl⟩ := h
  obtain ⟨collection, hcollection, counters, hcounters, hsegment⟩ := hvalid.segment
  have hfront : databasePattern.Matches
      (['.'].intercalate (division.label.toList ++ [division.database, []])) _ :=
    matches_databasePattern_iff.2 ⟨_, _, hvalid.label, hvalid.database, rfl, rfl⟩
  have hend : endPattern.Matches
      ('-' :: (counters ++ '.' :: (division.first ++ '.' :: division.second))) [] :=
    matches_endPattern_iff.2
      ⟨rfl, counters, _, _, hcounters, hvalid.first, hvalid.second, rfl⟩
  have hback : (group "collection" (many .wordOrHyphen true) ++ endPattern).Matches
      (division.segment ++ '.' :: (division.first ++ '.' :: division.second)) _ :=
    ⟨collection, _, _, [], ⟨[], ⟨rfl, hcollection⟩, rfl⟩, hend, by simp [hsegment], rfl⟩
  exact ⟨_, _, _, _, _, hfront, hback, intercalate_pieces division, rfl⟩

/-- The preferred match captures the database and the collection that are read. -/
theorem captures?_pattern (name : List Char) : pattern.captures? name =
    (read? name).map fun (database, collection) =>
      [("database", database), ("collection", collection)] := by
  cases h : pattern.captures? name with
  | none =>
    have hnone : read? name = none := read?_eq_none_iff.2 fun division hdivides => by
      obtain ⟨captures, hmatches⟩ := matches_pattern_of_divides hdivides
      exact captures?_eq_none_iff.1 h captures hmatches
    rw [hnone, Option.map_none]
  | some captures =>
    rw [pattern, captures?_append] at h
    obtain ⟨⟨_, _⟩, hmem, hback⟩ := List.exists_of_findSome?_eq_some h
    obtain ⟨front, rfl, hfront⟩ := mem_candidates_iff.1 hmem
    obtain ⟨label, database, hlabel, hdatabase, rfl, rfl⟩ := matches_databasePattern_iff.1 hfront
    obtain ⟨_, hlazy, rfl⟩ := Option.map_eq_some_iff.1 hback
    obtain ⟨run, _, more, rfl, hrun, hmore, rfl, hmin⟩ := captures?_lazy hlazy
    obtain ⟨rfl, counters, first, second, hcounters, hfirst, hsecond, rfl⟩ :=
      matches_endPattern_iff.1 (matches_of_captures? hmore)
    -- the front may have been found with or without a label: the name divides in one way only, so
    -- the order of these two tries does not show
    let division : Division := ⟨label, database, run ++ '-' :: counters, first, second⟩
    have hsplit : SplitsAt division.segment run := ⟨hrun, counters, hcounters, rfl⟩
    have hdivides : Divides division _ :=
      ⟨⟨hlabel, hdatabase, ⟨run, hsplit⟩, hfirst, hsecond⟩, (intercalate_pieces division).symm⟩
    have hshortest : IsShortest division.segment run := by
      refine ⟨hsplit, ?_⟩
      rintro other ⟨hother, rest, hrest, hsegment⟩
      refine hmin other ('-' :: (rest ++ '.' :: (first ++ '.' :: second))) [] ?_ hother
        (matches_endPattern_iff.2 ⟨rfl, rest, first, second, hrest, hfirst, hsecond, rfl⟩)
      simpa [division] using congrArg (· ++ '.' :: (first ++ '.' :: second)) hsegment
    have hread := read?_eq_some_iff.2 ⟨division, hdivides, rfl, hshortest⟩
    simp only [division, List.append_assoc, List.cons_append] at hread
    rw [hread]
    rfl

end ExportName

namespace Topic

open ExportName Division

/-- With no topic blocked, a name is accepted just if it divides into the parts of the grammar,
    which it does in one way at most. The database is that part of the division, and the collection
    is the shortest that leaves counters behind it: what the preferred match of the quoted pattern
    captures. Every other name is refused. -/
theorem resolve_accepts_grammar (name : String) :
    ((∃ topic, resolve [] name = .ok topic) ↔ ∃ division, Divides division name.toList) ∧
    (∀ division, Divides division name.toList →
      (∀ other, Divides other name.toList → other = division) ∧
      ∃ topic, resolve [] name = .ok topic ∧ topic.database.toList = division.database ∧
        IsShortest division.segment topic.collection.toList ∧
        pattern.captures? name.toList =
          some [("database", topic.database.toList), ("collection", topic.collection.toList)]) ∧
    ((¬ ∃ division, Divides division name.toList) →
      resolve [] name = .error ⟨.metadata, .nameMismatch name⟩ ∧
        pattern.captures? name.toList = none) := by
  rw [captures?_pattern]
  cases hread : read? name.toList with
  | none =>
    have hnot := read?_eq_none_iff.1 hread
    have hresolve : resolve [] name = .error ⟨.metadata, .nameMismatch name⟩ := by
      rw [resolve, ofFileName?, hread, Option.map_none]
    refine ⟨iff_of_false ?_ (not_exists.2 hnot), fun division h => absurd h (hnot division),
      fun _ => ⟨hresolve, rfl⟩⟩
    rintro ⟨topic, hok⟩
    cases hresolve.symm.trans hok
  | some read =>
    obtain ⟨database, collection⟩ := read
    obtain ⟨division, hdivides, rfl, hshortest⟩ := read?_eq_some_iff.1 hread
    obtain ⟨topic, htopic, hdatabase, hcollection⟩ : ∃ topic, resolve [] name = .ok topic ∧
        topic.database.toList = division.database ∧ topic.collection.toList = collection := by
      rw [resolve, ofFileName?, hread, Option.map_some]
      exact ⟨_, if_neg List.not_mem_nil, String.toList_ofList, String.toList_ofList⟩
    refine ⟨iff_of_true ⟨topic, htopic⟩ ⟨division, hdivides⟩, fun other hother => ?_,
      fun hnot => absurd ⟨division, hdivides⟩ hnot⟩
    obtain rfl := hdivides.unique hother
    refine ⟨fun third hthird => hdivides.unique hthird, topic, htopic, hdatabase, ?_, ?_⟩
    · rwa [hcollection]
    · rw [hdatabase, hcollection, Option.map_some]

end Topic

end Courier

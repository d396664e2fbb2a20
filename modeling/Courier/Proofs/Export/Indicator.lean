import Mathlib.Data.List.TakeWhile
import Courier.Export.Indicator
import Courier.Proofs.Export.Grammar
import Courier.Proofs.Export.Topic
import Courier.Proofs.Text.Opening

/-!
The success indicator and the files of a collection. The files are read off their whole names, the
indicator off the start of the run's topic, by another pattern. The two agree: a run whose topic is
that of a file announces the collection of the file.
-/

namespace Courier

open Text

namespace Indicator

open Pattern ExportName

variable {cs label database collection : List Char}

def collectionPattern : Pattern :=
  group "database" (many .wordOrHyphen false) ++
    (dot ++ group "collection" (many .wordOrHyphen false))

/-- The form of the topics that name a collection. -/
def topicPattern : Pattern := maybe (many .word false ++ dot) ++ collectionPattern

example : "^" ++ topicPattern.text =
    "^(?:\\w+\\.)?(?P<database>[\\w-]+)\\.(?P<collection>[\\w-]+)" := by decide

/-- Database and collection as they are captured. -/
def captured (names : List Char × List Char) : Captures :=
  [("database", names.1), ("collection", names.2)]

/-- A full stop does not begin with a character of a class that lacks it. -/
theorem begins?_dot_of_has {p : Pattern} (cls : CharClass) (hdot : cls.has '.' = false) (c : Char)
    (tail : List Char) (hc : cls.has c = true) : (dot ++ p).begins? (c :: tail) = none := by
  rw [begins?_one_append]
  refine if_neg ?_
  rintro rfl
  cases hc.symm.trans hdot

theorem begins?_collectionPattern (cs : List Char) :
    collectionPattern.begins? cs = (readCollection? cs).map captured := by
  rw [collectionPattern,
    begins?_group_append (begins?_dot_of_has .wordOrHyphen isWordOrHyphen_dot),
    begins?_one_append, readCollection?]
  simp only [begins?_group, CharClass.has]
  cases hrun : cs.takeWhile isWordOrHyphen with
  | nil => rfl
  | cons d database =>
    rw [if_neg (List.cons_ne_nil _ _)]
    cases hrest : cs.dropWhile isWordOrHyphen with
    | nil => rfl
    | cons c rest =>
      by_cases hc : c = '.'
      · subst hc
        by_cases hcollection : rest.takeWhile isWordOrHyphen = []
        · simp [hcollection]
        · obtain ⟨e, collection, hcollection⟩ := List.exists_cons_of_ne_nil hcollection
          simp [hcollection, captured]
      · simp [hc]

/-- The indicator reads off a topic what the preferred match of the pattern captures. -/
theorem begins?_topicPattern (cs : List Char) :
    topicPattern.begins? cs = (readTopic? cs).map captured := by
  have hlabel : (many .word false ++ (dot ++ collectionPattern)).begins? cs =
      if cs.takeWhile isWord = [] then none
      else (dot ++ collectionPattern).begins? (cs.dropWhile isWord) :=
    begins?_many_append (begins?_dot_of_has .word isWord_dot)
  rw [topicPattern, begins?_maybe_append, begins?_append_assoc, hlabel, begins?_one_append,
    begins?_collectionPattern, readTopic?]
  cases hrun : cs.takeWhile isWord with
  | nil => rfl
  | cons l label =>
    rw [if_neg (List.cons_ne_nil _ _)]
    cases hrest : cs.dropWhile isWord with
    | nil => rfl
    | cons c rest =>
      by_cases hc : c = '.'
      · subst hc
        simp only [if_true, begins?_collectionPattern]
        cases readCollection? rest <;> rfl
      · simp [hc]

/-- A run of one class before a full stop is taken as a whole. -/
theorem takeWhile_run_dot {member : Char → Bool} {run : List Char} (hrun : RunOf member run)
    (hdot : member '.' = false) (rest : List Char) :
    (run ++ '.' :: rest).takeWhile member = run ∧
      (run ++ '.' :: rest).dropWhile member = '.' :: rest := by
  have hneg : ¬ member '.' = true := by simp [hdot]
  rw [List.takeWhile_append_of_pos hrun.2, List.dropWhile_append_of_pos hrun.2,
    List.takeWhile_cons_of_neg hneg, List.dropWhile_cons_of_neg hneg, List.append_nil]
  exact ⟨rfl, rfl⟩

theorem readCollection?_append (hdatabase : RunOf isWordOrHyphen database)
    (hcollection : RunOf isWordOrHyphen collection) :
    readCollection? (database ++ '.' :: collection) = some (database, collection) := by
  obtain ⟨htake, hdrop⟩ := takeWhile_run_dot hdatabase isWordOrHyphen_dot collection
  have hall : collection.takeWhile isWordOrHyphen = collection :=
    List.takeWhile_eq_self_iff.2 hcollection.2
  obtain ⟨d, database, rfl⟩ := List.exists_cons_of_ne_nil hdatabase.1
  obtain ⟨e, collection, rfl⟩ := List.exists_cons_of_ne_nil hcollection.1
  rw [readCollection?, htake, hdrop]
  simp only [hall]

/-- Without a full stop there is no collection to read. -/
theorem readCollection?_eq_none (h : '.' ∉ cs) : readCollection? cs = none := by
  rw [readCollection?]
  split
  · next rest _ hdrop =>
    exact absurd ((List.dropWhile_suffix _).mem (hdrop ▸ List.mem_cons_self)) h
  · rfl

/-- A database that is itself a run of word characters could be a label, but then no database would
    be left. -/
theorem readTopic?_append (hdatabase : RunOf isWordOrHyphen database)
    (hcollection : RunOf isWordOrHyphen collection) :
    readTopic? (database ++ '.' :: collection) = some (database, collection) := by
  rw [readTopic?]
  split
  · next l label rest htake hdrop =>
    have hlabel : '.' ∉ l :: label := fun hmem => by
      cases (List.mem_takeWhile_imp (htake ▸ hmem)).symm.trans isWord_dot
    have hsplit : database ++ '.' :: collection = (l :: label) ++ '.' :: rest := by
      rw [← htake, ← hdrop, List.takeWhile_append_dropWhile]
    -- both sides have one full stop, so they are cut alike
    have hcut := congrArg (cut '.') hsplit
    rw [cut_append, cut_append, cut_eq_self (hdatabase.not_mem isWordOrHyphen_dot),
      cut_eq_self (hcollection.not_mem isWordOrHyphen_dot), cut_eq_self hlabel] at hcut
    have hrest : cut '.' rest = [collection] := (List.cons.inj hcut).2.symm
    rw [readCollection?_eq_none, readCollection?_append hdatabase hcollection, Option.none_or]
    obtain ⟨-, hfree, hjoined⟩ := cut_eq_iff.1 hrest
    rw [← hjoined, List.intercalate_singleton]
    exact hfree collection (List.mem_singleton_self _)
  · exact readCollection?_append hdatabase hcollection

theorem readTopic?_label_append (hlabel : RunOf isWord label)
    (hdatabase : RunOf isWordOrHyphen database) (hcollection : RunOf isWordOrHyphen collection) :
    readTopic? (label ++ '.' :: (database ++ '.' :: collection)) = some (database, collection) := by
  obtain ⟨htake, hdrop⟩ := takeWhile_run_dot hlabel isWord_dot (database ++ '.' :: collection)
  obtain ⟨l, label, rfl⟩ := List.exists_cons_of_ne_nil hlabel.1
  rw [readTopic?, htake, hdrop]
  simp only [readCollection?_append hdatabase hcollection, Option.some_or]

end Indicator

open ExportName Indicator in
/-- A run whose topic is that of a file announces the collection of the file: the indicator has the
    headers of the file's database, collection and topic, and the preferred match of its own pattern
    captures what the file's name is read as. -/
theorem Topic.indicator_of_resolve {blocked : List String} {name : String} {topic : Topic}
    (h : resolve blocked name = .ok topic) :
    Indicator.headers? topic.name =
        some ⟨"_" ++ topic.database ++ "_" ++ topic.collection ++ "_successful.gz", topic.database,
          topic.collection, topic.name⟩ ∧
      topicPattern.begins? topic.name.toList =
        some [("database", topic.database.toList), ("collection", topic.collection.toList)] := by
  obtain ⟨hfile, -⟩ := resolve_eq_ok_iff.1 h
  obtain ⟨⟨database, collection⟩, hread, rfl⟩ := Option.map_eq_some_iff.1 hfile
  obtain ⟨division, hdivides, rfl, hshortest⟩ := read?_eq_some_iff.1 hread
  have hdatabase := hdivides.1.database
  have hcollection := hshortest.1.1
  have htopic : readTopic? ((if startsWith keptLabel name then keptLabel else "") ++
      String.ofList division.database ++ "." ++ String.ofList collection).toList =
        some (division.database, collection) := by
    split
    · have hlabel : RunOf isWord ['d', 'b'] := isRun_iff.1 (by decide +kernel)
      simpa [keptLabel] using readTopic?_label_append hlabel hdatabase hcollection
    · simpa using readTopic?_append hdatabase hcollection
  constructor
  · rw [headers?, htopic]
    rfl
  · rw [begins?_topicPattern, htopic]
    simp [captured]

open Indicator in
theorem Topic.indicator_of_resolve_unlabelledDb :
    resolve ["db.agent-core"] "db.agent-core-045-050-000001.txt.gz" =
      .ok ⟨"db", "agent-core", "db.db.agent-core"⟩ ∧
    headers? "db.db.agent-core" =
      some ⟨"_db_agent-core_successful.gz", "db", "agent-core", "db.db.agent-core"⟩ ∧
    topicPattern.begins? "db.db.agent-core".toList =
      some [("database", "db".toList), ("collection", "agent-core".toList)] := by
  have hresolve : resolve ["db.agent-core"] "db.agent-core-045-050-000001.txt.gz" =
      .ok ⟨"db", "agent-core", "db.db.agent-core"⟩ := by
    decide +kernel
  obtain ⟨hheaders, hcaptures⟩ := indicator_of_resolve hresolve
  have hfile : "_" ++ "db" ++ "_" ++ "agent-core" ++ "_successful.gz" =
      "_db_agent-core_successful.gz" := by
    decide +kernel
  rw [hfile] at hheaders
  exact ⟨hresolve, hheaders, hcaptures⟩

end Courier

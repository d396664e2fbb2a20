import Courier.Proofs.Export.Division

/-!
Topics of files. The topic is the part of the name in front of the counters, unless the name carries
no label and its database is itself called like the label: the label is then put before the database
although the name has it once.
-/

namespace Courier

open Text ExportName

/-- A name is accepted with its topic, if that is not blocked. -/
theorem Topic.resolve_eq_ok_iff {blocked : List String} {name : String} {topic : Topic} :
    Topic.resolve blocked name = .ok topic ↔
      Topic.ofFileName? name = some topic ∧ topic.name ∉ blocked := by
  unfold Topic.resolve
  cases Topic.ofFileName? name with
  | none => simp
  | some found =>
    by_cases hblocked : found.name ∈ blocked
    · simp only [hblocked, if_true, reduceCtorEq, Option.some.injEq, false_iff, not_and, not_not]
      rintro rfl
      exact hblocked
    · simp only [hblocked, if_false, Except.ok.injEq, Option.some.injEq, iff_self_and]
      rintro rfl
      exact hblocked

/-- A name is refused if it tells no topic, or a blocked one. -/
theorem Topic.exists_resolve_error_iff {blocked : List String} {name : String} :
    (∃ reason, Topic.resolve blocked name = .error reason) ↔
      ∀ topic, Topic.ofFileName? name = some topic → topic.name ∈ blocked := by
  cases h : Topic.resolve blocked name with
  | error reason =>
    refine iff_of_true ⟨reason, rfl⟩ fun topic htopic => not_not.1 fun hnot => ?_
    cases h.symm.trans (Topic.resolve_eq_ok_iff.2 ⟨htopic, hnot⟩)
  | ok topic =>
    obtain ⟨htopic, hnot⟩ := Topic.resolve_eq_ok_iff.1 h
    refine iff_of_false ?_ fun hblocked => hnot (hblocked topic htopic)
    rintro ⟨reason, herror⟩
    cases herror

/-- A name that is refused is refused for good. -/
theorem Topic.isPermanent_of_resolve {blocked : List String} {name : String} {reason : Failure}
    (h : Topic.resolve blocked name = .error reason) : reason.isPermanent := by
  unfold Topic.resolve at h
  split at h
  · cases h
    rfl
  · split at h
    · cases h
      rfl
    · cases h

/-- A name `[db.]database.collection-counters.first.second` by its parts. -/
structure ExportFile where
  labelled : Bool
  database : List Char
  collection : List Char
  counters : List Char
  first : List Char
  second : List Char
  deriving DecidableEq, Repr

namespace ExportFile

variable {file : ExportFile}

def label (file : ExportFile) : String := if file.labelled then keptLabel else ""

/-- The part of the name in front of the counters. -/
def front (file : ExportFile) : String :=
  file.label ++ String.ofList file.database ++ "." ++ String.ofList file.collection

def name (file : ExportFile) : String :=
  file.front ++ "-" ++ String.ofList file.counters ++ "." ++ String.ofList file.first ++ "." ++
    String.ofList file.second

/-- The parts have the documented form, and no end of the collection reads as counters together with
    the counters behind it. -/
structure Valid (file : ExportFile) : Prop where
  database : RunOf isWordOrHyphen file.database
  collection : RunOf isWordOrHyphen file.collection
  counters : Counters file.counters
  first : RunOf isWord file.first
  second : RunOf isWord file.second
  apart : ∀ start back, start ≠ [] → file.collection = start ++ '-' :: back →
    ¬ Counters (back ++ '-' :: file.counters)

/-- A collection that does not end in counters stays apart from the counters behind it. -/
theorem apart_of_no_counters {collection counters : List Char} (hcounters : Counters counters)
    (h : ∀ start back, collection = start ++ '-' :: back → ¬ Counters back) :
    ∀ start back, start ≠ [] → collection = start ++ '-' :: back →
      ¬ Counters (back ++ '-' :: counters) := by
  rintro start _ - rfl hjoined
  obtain ⟨first, second, rfl, hsecond⟩ := hcounters.exists_of_append hjoined
  exact h (start ++ '-' :: first) second (by simp) hsecond

/-- The parts of the name between its full stops. -/
def division (file : ExportFile) : Division :=
  ⟨if file.labelled then some ['d', 'b'] else none, file.database,
    file.collection ++ '-' :: file.counters, file.first, file.second⟩

namespace Valid

theorem isShortest (h : file.Valid) :
    IsShortest (file.collection ++ '-' :: file.counters) file.collection := by
  refine ⟨⟨h.collection, file.counters, h.counters, rfl⟩, ?_⟩
  rintro other ⟨hother, rest, hrest, hsegment⟩
  rw [List.append_eq_append_iff] at hsegment
  obtain ⟨more, rfl, -⟩ | ⟨more, hcollection, hback⟩ := hsegment
  · rw [List.length_append]
    exact Nat.le_add_right _ _
  · cases more with
    | nil => rw [hcollection, List.append_nil]
    | cons c back =>
      obtain ⟨rfl, rfl⟩ := List.cons.inj hback
      exact absurd hrest (h.apart other back hother.1 hcollection)

theorem divides (h : file.Valid) : Division.Divides file.division file.name.toList := by
  have hlabel : RunOf isWord ['d', 'b'] := isRun_iff.1 (by decide +kernel)
  refine ⟨⟨?_, h.database, ⟨file.collection, h.isShortest.1⟩, h.first, h.second⟩, ?_⟩
  · intro label hmem
    cases hlabelled : file.labelled with
    | false => simp [division, hlabelled] at hmem
    | true =>
      obtain rfl : label = ['d', 'b'] := by simpa [division, hlabelled, eq_comm] using hmem
      exact hlabel
  · cases hlabelled : file.labelled <;>
      simp [name, front, label, division, Division.pieces, hlabelled, keptLabel, List.intercalate]

/-- A name starts like the label if it carries it, or if its database is called so. -/
theorem startsWith_iff (h : file.Valid) : startsWith keptLabel file.name = true ↔
    file.labelled = true ∨ file.database = ['d', 'b'] := by
  rw [startsWith, List.isPrefixOf_iff_prefix]
  change ['d', 'b'] ++ ['.'] <+: file.name.toList ↔ _
  rw [isPrefix_iff_cut (by decide), h.divides.cut_eq]
  cases hlabelled : file.labelled <;> simp [division, Division.pieces, hlabelled]

/-- The topic has the label behind which the name starts, whether it is one or the database. -/
theorem ofFileName? (h : file.Valid) : Topic.ofFileName? file.name =
    some ⟨String.ofList file.database, String.ofList file.collection,
      if file.labelled = false ∧ file.database = ['d', 'b'] then keptLabel ++ file.front
      else file.front⟩ := by
  have hread : read? file.name.toList = some (file.database, file.collection) :=
    read?_eq_some_iff.2 ⟨file.division, h.divides, rfl, h.isShortest⟩
  rw [Topic.ofFileName?, hread]
  simp only [Option.map_some, h.startsWith_iff]
  cases hlabelled : file.labelled with
  | true => simp [front, label, hlabelled]
  | false => by_cases hdatabase : file.database = ['d', 'b'] <;>
      simp [front, label, hlabelled, hdatabase, String.append_assoc]

end Valid

/-- A file goes by a topic: it is handled under it, and it is blocked just if that topic is. -/
def GoesBy (file : ExportFile) (topic : String) : Prop :=
  ∀ blocked, Topic.resolve blocked file.name =
    if topic ∈ blocked then .error ⟨.blockedTopic, .topicBlocked topic⟩
    else .ok ⟨String.ofList file.database, String.ofList file.collection, topic⟩

theorem GoesBy.unique {topic other : String} (h : file.GoesBy topic) (hother : file.GoesBy other) :
    other = topic := by
  have hresolve := (h []).symm.trans (hother [])
  simpa using hresolve.symm

/-- A file goes by the part of its name in front of the counters just if the name is labelled or its
    database is not called `db`. Otherwise it goes by that part behind a label that the name does
    not carry. -/
theorem goesBy_front_iff (h : file.Valid) :
    (file.GoesBy file.front ↔ file.labelled = true ∨ file.database ≠ ['d', 'b']) ∧
      file.GoesBy (if file.labelled = false ∧ file.database = ['d', 'b']
        then keptLabel ++ file.front else file.front) := by
  have hgoes : file.GoesBy (if file.labelled = false ∧ file.database = ['d', 'b']
      then keptLabel ++ file.front else file.front) := fun blocked => by
    rw [Topic.resolve, h.ofFileName?]
  refine ⟨⟨fun hfront => ?_, fun hnot => ?_⟩, hgoes⟩
  · have htopic := hfront.unique hgoes
    by_contra hdb
    rw [not_or, Bool.not_eq_true, not_not] at hdb
    rw [if_pos hdb] at htopic
    have hlength := congrArg String.length htopic
    rw [String.length_append] at hlength
    exact absurd hlength (by simp [keptLabel])
  · rwa [if_neg fun hdb => hnot.elim (by simp [hdb.1]) fun hne => hne hdb.2] at hgoes

/-- A file of the database `db` without a label. -/
def unlabelledDb : ExportFile :=
  ⟨false, ['d', 'b'], "thing".toList, "000001".toList, "txt".toList, "gz".toList⟩

theorem goesBy_front_iff_unlabelledDb : unlabelledDb.Valid ∧ unlabelledDb.front = "db.thing" ∧
    ¬ unlabelledDb.GoesBy "db.thing" ∧ unlabelledDb.GoesBy "db.db.thing" := by
  have hcounters : Counters unlabelledDb.counters := isCounters_iff.1 (by decide +kernel)
  have hvalid : unlabelledDb.Valid := by
    refine ⟨isRun_iff.1 (by decide +kernel), isRun_iff.1 (by decide +kernel), hcounters,
      isRun_iff.1 (by decide +kernel), isRun_iff.1 (by decide +kernel),
      apart_of_no_counters hcounters fun start back hcollection => ?_⟩
    have hhyphen : '-' ∈ unlabelledDb.collection := by simp [hcollection]
    exact absurd hhyphen (by decide)
  have hfront : unlabelledDb.front = "db.thing" := by decide
  have htopic : keptLabel ++ unlabelledDb.front = "db.db.thing" := by decide
  obtain ⟨hiff, hgoes⟩ := goesBy_front_iff hvalid
  rw [if_pos ⟨rfl, rfl⟩, htopic] at hgoes
  rw [hfront] at hiff
  exact ⟨hvalid, hfront, fun h => (hiff.1 h).elim nofun fun hne => hne rfl, hgoes⟩

/-- Blocking the topic that such a name carries does not block the file. -/
theorem unlabelledDb_escapes : Topic.resolve ["db.thing"] "db.thing-000001.txt.gz" =
    .ok ⟨"db", "thing", "db.db.thing"⟩ := by
  decide +kernel

end ExportFile

end Courier

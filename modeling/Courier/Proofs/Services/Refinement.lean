import Courier.Proofs.Services.Pages
import Courier.Proofs.Services.Rows

/-!
The table of items as the plain table of rows. Whatever a worker asks of the items, it is answered
as by the plain table, and the items stand for the rows of the plain table afterwards.
-/

namespace Courier.Services

open Memory

namespace ItemTable

variable {store : ItemTable} {table : Table} (correlationId collection : String)

theorem placeOf?_rowKey :
    placeOf? (rowKey correlationId collection) = some (correlationId, collection) := rfl

/-- A worker that reads its row is told what the item says. -/
theorem run_readRow :
    store.run (readRow store.name correlationId collection) =
      (some (.ok ((find? store.items (correlationId, collection)).map recordOf)), store) := by
  have hread : store.readItem store.name (rowKey correlationId collection) =
      .ok (find? store.items (correlationId, collection)) := by
    rw [readItem, if_pos rfl, placeOf?_rowKey]
  refine (store.run_readItem _ _ _).trans ?_
  rw [hread]
  rfl

theorem meaning?_countUpdate (table : String) :
    (countUpdate table correlationId collection).meaning? =
      some (.grow "#sent" ":zero" ":one", none) := by
  simp only [Update.meaning?, countUpdate, Change.ofText?_grow]
  rfl

theorem meaning?_statusUpdate (table : String) (expected : StatusRecord) (status : ExportStatus) :
    (statusUpdate table correlationId collection expected status).meaning? =
      some (.assign "#status" ":new", some (.unchanged expected)) := by
  simp only [Update.meaning?, statusUpdate, Change.ofText?_assign, Condition.ofText?_unchanged]
  rfl

/-- The counter that a count sets. -/
theorem value?_countUpdate (table : String) {item : AttributeMap} {sent : Option Int}
    (hsent : item.lookup sentAttribute = sent.map countAttribute) :
    (Change.grow "#sent" ":zero" ":one").value? (countUpdate table correlationId collection).names
        (countUpdate table correlationId collection).values item =
      some (sentAttribute, countAttribute (sent.getD 0 + 1)) := by
  let names := (countUpdate table correlationId collection).names
  let values := (countUpdate table correlationId collection).values
  have hname : attributeOf names "#sent" = sentAttribute := rfl
  have hzero : values.lookup ":zero" = some (countAttribute 0) := rfl
  have hone : values.lookup ":one" = some (countAttribute 1) := rfl
  have hkept : (item.lookup (attributeOf names "#sent")).or (values.lookup ":zero") =
      some (countAttribute (sent.getD 0)) := by
    rw [hname, hsent, hzero]
    cases sent <;> rfl
  change ((item.lookup (attributeOf names "#sent")).or (values.lookup ":zero")).bind (fun kept =>
    (values.lookup ":one").bind fun added => (kept.plus? added).bind _) = _
  rw [hkept, hone, Option.bind_some, Option.bind_some, Attribute.plus?_countAttribute]
  rfl

/-- A count makes the item if it is not there, and gives the item as it is then. -/
theorem update_countUpdate {sent : Option Int}
    (hsent : ((find? store.items (correlationId, collection)).getD
      (rowKey correlationId collection)).lookup sentAttribute = sent.map countAttribute) :
    store.update (countUpdate store.name correlationId collection) =
      let item := insert ((find? store.items (correlationId, collection)).getD
        (rowKey correlationId collection)) sentAttribute (countAttribute (sent.getD 0 + 1))
      (.ok (some item), store.put (correlationId, collection) item) := by
  rw [update_eq_change rfl (placeOf?_rowKey correlationId collection)
    (meaning?_countUpdate correlationId collection store.name)]
  exact change_of_holds rfl (value?_countUpdate correlationId collection store.name hsent)

theorem run_countSent (name : String) :
    store.run (countSent name correlationId collection) =
      match store.update (countUpdate name correlationId collection) with
      | (.ok item, after) => (some (.ok ((item.map (numberOf · sentAttribute)).getD 0)), after)
      | (.error _, after) => (some (.error (tableFailed .increment)), after) := by
  refine (store.run_update _ _).trans ?_
  rcases store.update (countUpdate name correlationId collection) with ⟨refusal | item, after⟩ <;>
    rfl

theorem run_changeStatus (name : String) (expected : StatusRecord) (status : ExportStatus) :
    store.run (changeStatus name correlationId collection expected status) =
      match store.update (statusUpdate name correlationId collection expected status) with
      | (.ok _, after) => (some (.ok true), after)
      | (.error .conditionFailed, after) => (some (.ok false), after)
      | (.error _, after) => (some (.error (tableFailed .update)), after) := by
  refine (store.run_update _ _).trans ?_
  rcases store.update (statusUpdate name correlationId collection expected status) with
    ⟨refusal | item, after⟩
  · cases refusal <;> rfl
  · rfl

section Holds

variable {correlationId collection} (h : store.Holds table)

include h

theorem Holds.represents_getD (place : String × String) :
    Represents place ((find? store.items place).getD (rowKey place.1 place.2))
      ((find? table place).getD .empty) := by
  obtain ⟨hitem, hrow⟩ | ⟨item, row, hitem, hrow, hrepresents⟩ := find?_stands h place
  · rw [hitem, hrow]
    exact .rowKey_empty place
  · rw [hitem, hrow]
    exact hrepresents

theorem Holds.run_readRow (hrange : table.InRange) :
    store.run (readRow store.name correlationId collection) =
      (some (.ok ((find? table (correlationId, collection)).map (·.record collection))),
        store) := by
  rw [ItemTable.run_readRow]
  obtain ⟨hitem, hrow⟩ | ⟨item, row, hitem, hrow, hrepresents⟩ :=
    find?_stands h (correlationId, collection)
  · rw [hitem, hrow]
    rfl
  · rw [hitem, hrow, Option.map_some, Option.map_some, hrepresents.recordOf_eq (hrange.find? hrow)]

theorem Holds.run_countSent (hrange : table.InRange) :
    let row := ((find? table (correlationId, collection)).getD .empty).counted
    ∃ after, store.run (countSent store.name correlationId collection) =
        (some (.ok row.count), after) ∧
      after.Holds (insert table (correlationId, collection) row) := by
  have hrepresents := h.represents_getD (correlationId, collection)
  have hinRange : ((find? table (correlationId, collection)).getD .empty).InRange := by
    cases hrow : find? table (correlationId, collection) with
    | none => rintro count (hcount | hcount) <;> cases hcount
    | some row => exact hrange.find? hrow
  generalize (find? table (correlationId, collection)).getD .empty = row at *
  rw [ItemTable.run_countSent, update_countUpdate correlationId collection hrepresents.sent]
  refine ⟨_, ?_, h.put hrepresents.counted⟩
  have hcount : numberOf (insert ((find? store.items (correlationId, collection)).getD
      (rowKey correlationId collection)) sentAttribute (countAttribute (row.sent.getD 0 + 1)))
      sentAttribute = row.counted.count := by
    have hsent : (insert ((find? store.items (correlationId, collection)).getD
        (rowKey correlationId collection)) sentAttribute
        (countAttribute (row.sent.getD 0 + 1))).lookup sentAttribute =
        row.counted.sent.map countAttribute := lookup_insert_self _ _ _
    refine numberOf_eq hsent fun value hvalue => ?_
    obtain rfl : row.count + 1 = value := Option.some.inj hvalue
    unfold Row.count
    cases hsent : row.sent with
    | none => decide
    | some sent =>
      obtain ⟨hlow, hhigh⟩ := hinRange sent (.inr hsent)
      rw [Option.getD_some]
      omega
  simp only [Option.map_some, Option.getD_some, hcount]
  rfl

theorem Holds.run_changeStatus {expected : StatusRecord} (hexpected : expected.status.text ≠ "")
    (status : ExportStatus) :
    let moved := table.transition (correlationId, collection) expected status
    ∃ after, store.run (changeStatus store.name correlationId collection expected status) =
        (some (.ok moved.1), after) ∧
      after.Holds moved.2 := by
  let request := statusUpdate store.name correlationId collection expected status
  have hupdate : store.update request = store.change request (correlationId, collection)
      (.assign "#status" ":new") (some (.unchanged expected)) :=
    update_eq_change rfl (placeOf?_rowKey correlationId collection)
      (meaning?_statusUpdate correlationId collection store.name expected status)
  have hlost (hnot : (Condition.unchanged expected).holds request.names request.values
      ((find? store.items (correlationId, collection)).getD []) = false) :
      store.run (changeStatus store.name correlationId collection expected status) =
        (some (.ok false), store) := by
    have hchange : store.change request (correlationId, collection) (.assign "#status" ":new")
        (some (.unchanged expected)) = (.error .conditionFailed, store) :=
      change_of_not_holds hnot
    rw [ItemTable.run_changeStatus, hupdate, hchange]
  obtain ⟨hitem, hrow⟩ | ⟨item, row, hitem, hrow, hrepresents⟩ :=
    find?_stands h (correlationId, collection)
  · rw [Table.transition, hrow]
    refine ⟨store, hlost ?_, h⟩
    -- the status of an item that is not there is not equal to any
    rw [hitem]
    rfl
  · have hholds := hrepresents.holds_unchanged hexpected store.name status
    rw [Table.transition, hrow]
    rw [hitem, Option.getD_some] at hlost
    by_cases hagrees : row.status.text = expected.status.text ∧
        row.exported.getD 0 = expected.exported ∧ row.sent.getD 0 = expected.sent
    · simp only [hagrees, and_self, if_true]
      refine ⟨_, ?_, h.put (hrepresents.moved status.text)⟩
      have hchange : store.change request (correlationId, collection) (.assign "#status" ":new")
          (some (.unchanged expected)) = (.ok none, store.put (correlationId, collection)
            (insert item statusAttribute (.text status.text))) := by
        refine (change_of_holds ?_ rfl).trans (by rw [hitem]; rfl)
        rw [hitem]
        exact hholds.trans (decide_eq_true hagrees)
      rw [ItemTable.run_changeStatus, hupdate, hchange]
    · simp only [hagrees, if_false]
      exact ⟨store, hlost (by rw [hholds]; exact decide_eq_false hagrees), h⟩

theorem Holds.run_allRows (hrange : table.InRange) :
    store.run (allRows store.name correlationId) =
      (some (.ok (table.records correlationId)), store) := by
  obtain ⟨hmap, hcollection⟩ := map_recordOf_eq h hrange correlationId
  rw [ItemTable.run_allRows store correlationId, partition, List.map_mergeSort, hmap]
  · rfl
  · intro a ha b hb
    rw [hcollection a (List.mem_of_mem_filter ha), hcollection b (List.mem_of_mem_filter hb)]

end Holds

/-- The table of items answers a worker as the plain table of its rows does, and afterwards stands
    for the rows as they are then: a read leaves both as they are, a count adds one to the counter
    of a row and makes the row if it is not there, a transition moves the row just if it is as
    expected, and a query gives all rows of the export. -/
theorem refines_rows {store : ItemTable}
    (hitems : ∀ entry ∈ store.items, WellFormed InRange entry)
    (correlationId collection : String) :
    store.run (readRow store.name correlationId collection) =
        (some (.ok ((find? store.rows (correlationId, collection)).map (·.record collection))),
          store) ∧
      (let row := ((find? store.rows (correlationId, collection)).getD .empty).counted
      ∃ after, store.run (countSent store.name correlationId collection) =
          (some (.ok row.count), after) ∧
        after.Holds (insert store.rows (correlationId, collection) row)) ∧
      (∀ expected status, expected.status.text ≠ "" →
        let moved := store.rows.transition (correlationId, collection) expected status
        ∃ after, store.run (changeStatus store.name correlationId collection expected status) =
            (some (.ok moved.1), after) ∧
          after.Holds moved.2) ∧
      store.run (allRows store.name correlationId) =
        (some (.ok (store.rows.records correlationId)), store) := by
  obtain ⟨hholds, hrange⟩ := holds_rows hitems
  exact ⟨hholds.run_readRow hrange, hholds.run_countSent hrange,
    fun expected status hexpected => hholds.run_changeStatus hexpected status,
    hholds.run_allRows hrange⟩

end ItemTable

namespace Sample

/-- An item that has been exported and has no counter of sent files. -/
def item (exported : Int) : AttributeMap :=
  rowKey "id" "db.core.thing" ++
    [(statusAttribute, .text "Exported"), (exportedAttribute, countAttribute exported)]

def itemTable (exported : Int) : ItemTable where
  name := "table"
  items := [(("id", "db.core.thing"), item exported)]
  distinct := List.nodup_cons.2 ⟨nofun, List.nodup_nil⟩
  pageSize := 1
  pageSize_pos := Nat.one_pos

theorem itemTable_wellFormed {bounds : Int → Prop} {exported : Int} (h : bounds exported) :
    ∀ entry ∈ (itemTable exported).items, WellFormed bounds entry := by
  refine List.forall_mem_singleton.2 ⟨rfl, rfl, ?_, ?_, ?_⟩
  · rintro value ⟨⟩
    exact ⟨_, rfl⟩
  · rintro value ⟨⟩
    exact ⟨exported, rfl, h⟩
  · rintro value ⟨⟩

end Sample

namespace ItemTable

/-- The missing counter of a row without files counts as the expected zero. -/
theorem refines_rows_noFiles :
    (∀ entry ∈ (Sample.itemTable 0).items, WellFormed InRange entry) ∧
      ∃ after, (Sample.itemTable 0).run (changeStatus "table" "id" "db.core.thing"
          ⟨"db.core.thing", .exported, 0, 0⟩ .received) = (some (.ok true), after) ∧
        after.Holds [(("id", "db.core.thing"), ⟨.received, some 0, none⟩)] := by
  have hzero : InRange 0 := ⟨by decide, by decide⟩
  have hitems := Sample.itemTable_wellFormed hzero
  obtain ⟨-, -, htransition, -⟩ := refines_rows hitems "id" "db.core.thing"
  obtain ⟨after, hrun, hholds⟩ :=
    htransition ⟨"db.core.thing", .exported, 0, 0⟩ .received (by decide)
  have hmoved : (Sample.itemTable 0).rows.transition ("id", "db.core.thing")
      ⟨"db.core.thing", .exported, 0, 0⟩ .received =
        (true, [(("id", "db.core.thing"), ⟨.received, some 0, none⟩)]) := by
    decide +kernel
  rw [hmoved] at hrun hholds
  exact ⟨hitems, after, hrun, hholds⟩

/-- A count below all numbers of 64 bits is read as zero, which is not what the row says. -/
theorem exists_unread :
    ∃ store : ItemTable, (∀ entry ∈ store.items, WellFormed (· < 2 ^ 63 - 1) entry) ∧
      store.run (readRow store.name "id" "db.core.thing") ≠
        (some (.ok ((find? store.rows ("id", "db.core.thing")).map
          (·.record "db.core.thing"))), store) := by
  refine ⟨Sample.itemTable (-(2 ^ 63) - 1), Sample.itemTable_wellFormed (by decide), ?_⟩
  rw [run_readRow]
  intro h
  have hread : (find? (Sample.itemTable (-(2 ^ 63) - 1)).items ("id", "db.core.thing")).map
      recordOf ≠ (find? (Sample.itemTable (-(2 ^ 63) - 1)).rows ("id", "db.core.thing")).map
        (·.record "db.core.thing") := by
    decide +kernel
  exact hread (Except.ok.inj (Option.some.inj (congrArg Prod.fst h)))

end ItemTable

end Courier.Services

import Courier.Memory.World
import Courier.Proofs.Services.ItemTable
import Mathlib.Algebra.Group.Int.Defs

/-!
The rows that items stand for. A well-formed item is read as its row: absent counters are zero, and
a status keeps its text, also one of another system. The condition of a transition holds of an item
just if the row is as expected, whichever counters are absent or zero.
-/

namespace Courier

open Memory

/-- A status keeps the text it was made of, also one of another system. -/
theorem ExportStatus.text_ofText (s : String) : (ofText s).text = s := by
  unfold ofText
  cases h : known.find? fun status => status.text == s with
  | none => rfl
  | some status =>
    have hfound := List.find?_some h
    exact eq_of_beq hfound

/-- The status is the one that is read from its text. -/
def ExportStatus.Canonical (status : ExportStatus) : Prop := ofText status.text = status

theorem ExportStatus.Canonical.text_inj {status other : ExportStatus} (h : status.Canonical)
    (hother : other.Canonical) : status.text = other.text ↔ status = other := by
  refine ⟨fun htext => ?_, fun heq => by rw [heq]⟩
  rw [← h, ← hother, htext]

namespace Memory

/-- A count that a worker can read, and can read again when it has grown by one. -/
def InRange (count : Int) : Prop := -(2 ^ 63) ≤ count ∧ count < 2 ^ 63 - 1

def Row.InRange (row : Row) : Prop :=
  ∀ count, row.exported = some count ∨ row.sent = some count → Memory.InRange count

def Table.InRange (table : Table) : Prop := ∀ entry ∈ table, entry.2.InRange

theorem Table.InRange.find? {table : Table} (h : table.InRange) {place : String × String}
    {row : Row} (hrow : find? table place = some row) : row.InRange := by
  induction table with
  | nil => cases hrow
  | cons entry rest ih =>
    obtain ⟨hentry, hrest⟩ := List.forall_mem_cons.1 h
    rw [Memory.find?] at hrow
    split at hrow
    · cases hrow
      exact hentry
    · exact ih hrest hrow

/-- Whether a transition takes effect, and the table after it. It takes effect just if there is the
    row, its status has the expected text and its counters have the expected values. -/
def Table.transition (table : Table) (place : String × String) (expected : StatusRecord)
    (status : ExportStatus) : Bool × Table :=
  match find? table place with
  | none => (false, table)
  | some row =>
    if row.status.text = expected.status.text ∧ row.exported.getD 0 = expected.exported ∧
        row.sent.getD 0 = expected.sent then
      (true, insert table place { row with status := .ofText status.text })
    else (false, table)

/-- The collaborators in memory keep the plain table, unless another system writes in between. -/
theorem World.perform_transition {world : World} {correlationId collection : String}
    {expected : StatusRecord} {status : ExportStatus} (hnone : world.interloper = none)
    (hrows : ∀ row, find? world.table (correlationId, collection) = some row →
      row.status.Canonical)
    (hexpected : expected.status.Canonical) (hstatus : status.Canonical) :
    world.perform (.transition correlationId collection expected status) =
      let moved := world.table.transition (correlationId, collection) expected status
      (.ok moved.1, { world with table := moved.2 }) := by
  simp only [World.perform, Table.transition]
  cases hrow : find? world.table (correlationId, collection) with
  | none => rfl
  | some row =>
    have hagrees : (row.agrees expected = true) ↔ row.status.text = expected.status.text ∧
        row.exported.getD 0 = expected.exported ∧ row.sent.getD 0 = expected.sent := by
      rw [(hrows row hrow).text_inj hexpected]
      simp [Row.agrees, and_assoc]
    have hundisturbed : world.disturbed correlationId collection row = (row, world) := by
      rw [World.disturbed, hnone]
    simp only [hundisturbed, hagrees]
    split
    · rw [hstatus]
      rfl
    · rfl

end Memory

namespace Services

theorem lookup_eq_find? (item : AttributeMap) (name : String) :
    item.lookup name = find? item name := by
  induction item with
  | nil => rfl
  | cons entry rest ih =>
    obtain ⟨other, value⟩ := entry
    by_cases h : other = name
    · simp [find?, h]
    · have hbeq : (name == other) = false := beq_false_of_ne (Ne.symm h)
      simp [find?, List.lookup_cons, h, hbeq, ih]

theorem lookup_insert_self (item : AttributeMap) (name : String) (value : Attribute) :
    (insert item name value).lookup name = some value := by
  rw [lookup_eq_find?, find?_insert_self]

theorem lookup_insert_of_ne {name other : String} (item : AttributeMap) (value : Attribute)
    (h : other ≠ name) : (insert item name value).lookup other = item.lookup other := by
  rw [lookup_eq_find?, find?_insert_of_ne item value h, lookup_eq_find?]

theorem numberOf_eq {item : AttributeMap} {name : String} {count : Option Int}
    (hitem : item.lookup name = count.map countAttribute)
    (hrange : ∀ value, count = some value → -(2 ^ 63) ≤ value ∧ value < 2 ^ 63) :
    numberOf item name = count.getD 0 := by
  unfold numberOf
  rw [hitem]
  cases count with
  | none => rfl
  | some value =>
    obtain ⟨hlow, hhigh⟩ := hrange value rfl
    simp only [Option.map_some, countAttribute]
    rw [Text.readSigned?_toString hlow hhigh, Option.getD_some]

/-- The item stands for the row: it has the key of the row's place, it has a counter just if the row
    has it, and its status is a text, or is absent where the row has none. -/
structure Represents (place : String × String) (item : AttributeMap) (row : Row) : Prop where
  correlationId : item.lookup correlationAttribute = some (.text place.1)
  collection : item.lookup collectionAttribute = some (.text place.2)
  status : (item.lookup statusAttribute = none ∧ row.status = .missing) ∨
    ∃ text, item.lookup statusAttribute = some (.text text) ∧ row.status = .ofText text
  exported : item.lookup exportedAttribute = row.exported.map countAttribute
  sent : item.lookup sentAttribute = row.sent.map countAttribute

namespace Represents

variable {place : String × String} {item : AttributeMap} {row : Row}

theorem ofText_textOf (h : Represents place item row) :
    ExportStatus.ofText (textOf item statusAttribute) = row.status := by
  unfold textOf
  obtain ⟨hitem, hrow⟩ | ⟨text, hitem, hrow⟩ := h.status
  · rw [hitem, hrow]
    decide
  · rw [hitem, hrow]

/-- An item is read as its row. -/
theorem recordOf_eq (h : Represents place item row) (hrange : row.InRange) :
    recordOf item = row.record place.2 := by
  have hexported : numberOf item exportedAttribute = row.exported.getD 0 :=
    numberOf_eq h.exported fun value hvalue => by
      obtain ⟨hlow, hhigh⟩ := hrange value (.inl hvalue)
      exact ⟨hlow, by omega⟩
  have hsent : numberOf item sentAttribute = row.sent.getD 0 :=
    numberOf_eq h.sent fun value hvalue => by
      obtain ⟨hlow, hhigh⟩ := hrange value (.inr hvalue)
      exact ⟨hlow, by omega⟩
  have hcollection : textOf item collectionAttribute = place.2 := by
    rw [textOf, h.collection]
  rw [recordOf, hcollection, h.ofText_textOf, hexported, hsent]
  rfl

/-- What stands under a key alone is a row that has just been made. -/
theorem rowKey_empty (place : String × String) :
    Represents place (rowKey place.1 place.2) .empty where
  correlationId := rfl
  collection := rfl
  status := .inl ⟨rfl, rfl⟩
  exported := rfl
  sent := rfl

theorem counted (h : Represents place item row) :
    Represents place (insert item sentAttribute (countAttribute (row.count + 1))) row.counted where
  correlationId := (lookup_insert_of_ne item _ (by decide)).trans h.correlationId
  collection := (lookup_insert_of_ne item _ (by decide)).trans h.collection
  status := by
    rw [lookup_insert_of_ne item _ (by decide)]
    exact h.status
  exported := (lookup_insert_of_ne item _ (by decide)).trans h.exported
  sent := lookup_insert_self item sentAttribute _

theorem moved (h : Represents place item row) (text : String) :
    Represents place (insert item statusAttribute (.text text))
      { row with status := .ofText text } where
  correlationId := (lookup_insert_of_ne item _ (by decide)).trans h.correlationId
  collection := (lookup_insert_of_ne item _ (by decide)).trans h.collection
  status := .inr ⟨text, lookup_insert_self item statusAttribute _, rfl⟩
  exported := (lookup_insert_of_ne item _ (by decide)).trans h.exported
  sent := (lookup_insert_of_ne item _ (by decide)).trans h.sent

/-- The condition of a transition holds of an item just if the row is as expected. An absent status
    is not equal to any text, so none is expected. -/
theorem holds_unchanged (h : Represents place item row) {expected : StatusRecord}
    (hexpected : expected.status.text ≠ "") (table : String) (status : ExportStatus) :
    (Condition.unchanged expected).holds (statusUpdate table place.1 place.2 expected status).names
        (statusUpdate table place.1 place.2 expected status).values item =
      decide (row.status.text = expected.status.text ∧ row.exported.getD 0 = expected.exported ∧
        row.sent.getD 0 = expected.sent) := by
  let names := (statusUpdate table place.1 place.2 expected status).names
  let values := (statusUpdate table place.1 place.2 expected status).values
  have hstatus : (Condition.equals "#status" ":expected").holds names values item =
      decide (row.status.text = expected.status.text) := by
    have hname : attributeOf names "#status" = statusAttribute := rfl
    have hvalue : values.lookup ":expected" = some (.text expected.status.text) := rfl
    obtain ⟨hitem, hrow⟩ | ⟨text, hitem, hrow⟩ := h.status
    · have hne : ¬ row.status.text = expected.status.text := by
        rw [hrow]
        exact Ne.symm hexpected
      simp only [Condition.holds, hname, hitem, hne, decide_false]
    · have htext : row.status.text = text := by rw [hrow, ExportStatus.text_ofText]
      simp only [Condition.holds, hname, hvalue, hitem, Attribute.same, htext]
      rfl
  have hexported : (Condition.counter "#exported" ":exported" expected.exported).holds names values
      item = decide (row.exported.getD 0 = expected.exported) :=
    Condition.holds_counter h.exported rfl
  have hsent : (Condition.counter "#sent" ":sent" expected.sent).holds names values item =
      decide (row.sent.getD 0 = expected.sent) :=
    Condition.holds_counter h.sent rfl
  change ((_ && _) && _) = _
  rw [hstatus, hexported, hsent, Bool.decide_and, Bool.decide_and, Bool.and_assoc]

end Represents

/-- The counter that an attribute is. -/
def countOf (item : AttributeMap) (name : String) : Option Int :=
  match item.lookup name with
  | some (.number digits) => Text.readInteger? digits
  | _ => none

/-- The row that an item stands for. -/
def rowOf (item : AttributeMap) : Row :=
  ⟨.ofText (textOf item statusAttribute), countOf item exportedAttribute,
    countOf item sentAttribute⟩

/-- An item has the key of its place, its status is a text, and its counters are whole numbers with
    some bounds; status and counters may be absent. -/
structure WellFormed (bounds : Int → Prop) (entry : (String × String) × AttributeMap) : Prop where
  correlationId : entry.2.lookup correlationAttribute = some (.text entry.1.1)
  collection : entry.2.lookup collectionAttribute = some (.text entry.1.2)
  status : ∀ value, entry.2.lookup statusAttribute = some value → ∃ text, value = .text text
  exported : ∀ value, entry.2.lookup exportedAttribute = some value →
    ∃ count, value = countAttribute count ∧ bounds count
  sent : ∀ value, entry.2.lookup sentAttribute = some value →
    ∃ count, value = countAttribute count ∧ bounds count

theorem lookup_eq_countOf {bounds : Int → Prop} {item : AttributeMap} {name : String}
    (h : ∀ value, item.lookup name = some value →
      ∃ count, value = countAttribute count ∧ bounds count) :
    item.lookup name = (countOf item name).map countAttribute ∧
      ∀ count, countOf item name = some count → bounds count := by
  unfold countOf
  cases hitem : item.lookup name with
  | none => exact ⟨rfl, nofun⟩
  | some value =>
    obtain ⟨count, rfl, hbounds⟩ := h value hitem
    simp only [countAttribute, Text.readInteger?_toString, Option.map_some, true_and]
    rintro _ ⟨⟩
    exact hbounds

/-- A well-formed item stands for its row. -/
theorem WellFormed.represents {entry : (String × String) × AttributeMap}
    (h : WellFormed InRange entry) :
    Represents entry.1 entry.2 (rowOf entry.2) ∧ (rowOf entry.2).InRange := by
  obtain ⟨hexported, hexportedRange⟩ := lookup_eq_countOf h.exported
  obtain ⟨hsent, hsentRange⟩ := lookup_eq_countOf h.sent
  refine ⟨⟨h.correlationId, h.collection, ?_, hexported, hsent⟩, ?_⟩
  · cases hitem : entry.2.lookup statusAttribute with
    | none =>
      refine .inl ⟨rfl, ?_⟩
      rw [rowOf, textOf, hitem]
      rfl
    | some value =>
      obtain ⟨text, rfl⟩ := h.status value hitem
      refine .inr ⟨text, rfl, ?_⟩
      rw [rowOf, textOf, hitem]
  · rintro count (hcount | hcount)
    · exact hexportedRange count hcount
    · exact hsentRange count hcount

/-- An item and a row of the same place, where the item stands for the row. -/
def Stands (entry : (String × String) × AttributeMap) (row : (String × String) × Row) : Prop :=
  entry.1 = row.1 ∧ Represents entry.1 entry.2 row.2

namespace ItemTable

/-- Every item stands for a row, and every row has its item. -/
def Holds (store : ItemTable) (table : Table) : Prop := List.Forall₂ Stands store.items table

/-- The plain table of the rows that the items stand for. -/
def rows (store : ItemTable) : Table := store.items.map fun entry => (entry.1, rowOf entry.2)

theorem holds_rows {store : ItemTable} (h : ∀ entry ∈ store.items, WellFormed InRange entry) :
    store.Holds store.rows ∧ store.rows.InRange := by
  constructor
  · refine List.forall₂_map_right_iff.2 (List.forall₂_same.2 fun entry hentry => ?_)
    exact ⟨rfl, (h entry hentry).represents.1⟩
  · intro row hrow
    obtain ⟨entry, hentry, rfl⟩ := List.mem_map.1 hrow
    exact (h entry hentry).represents.2

theorem find?_stands {items : List ((String × String) × AttributeMap)} {table : Table}
    (h : List.Forall₂ Stands items table) (place : String × String) :
    (find? items place = none ∧ find? table place = none) ∨
      ∃ item row, find? items place = some item ∧ find? table place = some row ∧
        Represents place item row := by
  induction h with
  | nil => exact .inl ⟨rfl, rfl⟩
  | @cons entry row items table hstands _ ih =>
    obtain ⟨hplace, hrepresents⟩ := hstands
    by_cases hfound : entry.1 = place
    · subst hfound
      refine .inr ⟨entry.2, row.2, ?_, ?_, hrepresents⟩
      · simp [find?]
      · simp [find?, hplace]
    · have hrow : row.1 ≠ place := hplace ▸ hfound
      simpa [find?, hfound, hrow] using ih

/-- The items of an export are read as its rows, each with the collection of its place. -/
theorem map_recordOf_eq {items : List ((String × String) × AttributeMap)} {table : Table}
    (h : List.Forall₂ Stands items table) (hrange : table.InRange) (correlationId : String) :
    ((items.filter fun entry => entry.1.1 == correlationId).map fun entry => recordOf entry.2) =
        ((table.filter fun entry => entry.1.1 == correlationId).map fun entry =>
          entry.2.record entry.1.2) ∧
      ∀ entry ∈ items, (recordOf entry.2).collection = entry.1.2 := by
  induction h with
  | nil => exact ⟨rfl, List.forall_mem_nil _⟩
  | @cons entry row items table hstands _ ih =>
    obtain ⟨hplace, hrepresents⟩ := hstands
    obtain ⟨hrow, hrest⟩ := List.forall_mem_cons.1 hrange
    obtain ⟨hmap, hcollection⟩ := ih hrest
    have hrecord := hrepresents.recordOf_eq hrow
    refine ⟨?_, List.forall_mem_cons.2 ⟨by rw [hrecord]; rfl, hcollection⟩⟩
    rw [List.filter_cons, List.filter_cons, ← hplace]
    split
    · rw [List.map_cons, List.map_cons, hmap, hrecord, ← hplace]
    · exact hmap

/-- An item that is put stands for the row that is inserted. -/
theorem Holds.put {store : ItemTable} {table : Table} (h : store.Holds table)
    {place : String × String} {item : AttributeMap} {row : Row}
    (hrepresents : Represents place item row) :
    (store.put place item).Holds (insert table place row) := by
  refine .cons ⟨rfl, hrepresents⟩ (List.rel_filter (fun entry row hstands => ?_) h)
  simp [hstands.1]

end ItemTable

end Services

end Courier

import Courier.Services.Step
import Courier.Status.Basic
import Courier.Text.Numeral

/-!
The status table in the cloud. Every row is an item with the attributes below; a counter that was
never written is absent and reads as zero. Changes are made where the item is, so that they cannot
be lost to each other: a count grows by one, and a status changes only while the item is as
expected.
-/

namespace Courier.Services

/-- The attributes of a row. -/
def correlationAttribute : String := "CorrelationId"

@[inherit_doc correlationAttribute]
def collectionAttribute : String := "CollectionName"

@[inherit_doc correlationAttribute]
def statusAttribute : String := "CollectionStatus"

@[inherit_doc correlationAttribute]
def exportedAttribute : String := "FilesExported"

@[inherit_doc correlationAttribute]
def sentAttribute : String := "FilesSent"

/-- The failure of a request about rows. -/
def tableFailed (action : TableAction) : Failure := ⟨.statusTable, .tableCall action⟩

def rowKey (correlationId collection : String) : AttributeMap :=
  [(correlationAttribute, .text correlationId), (collectionAttribute, .text collection)]

/-- The text of an attribute; empty if it is absent or no text. -/
def textOf (item : AttributeMap) (name : String) : String :=
  match item.lookup name with
  | some (.text value) => value
  | _ => ""

/-- The number of an attribute; zero if it is absent or no number of 64 bits. -/
def numberOf (item : AttributeMap) (name : String) : Int :=
  match item.lookup name with
  | some (.number digits) => (Text.readSigned? 64 digits).getD 0
  | _ => 0

/-- The row that an item is. -/
def recordOf (item : AttributeMap) : StatusRecord :=
  ⟨textOf item collectionAttribute, .ofText (textOf item statusAttribute),
    numberOf item exportedAttribute, numberOf item sentAttribute⟩

namespace Condition

/-- The condition that a counter still has a value. Zero is also the value of an absent counter. -/
def counter (name operand : String) (value : Int) : Condition :=
  if value = 0 then .either (.equals name operand) (.absent name) else .equals name operand

/-- The condition that a row is still as expected. -/
def unchanged (expected : StatusRecord) : Condition :=
  .both (.both (.equals "#status" ":expected") (counter "#exported" ":exported" expected.exported))
    (counter "#sent" ":sent" expected.sent)

def text : Condition → String
  | equals name operand => s!"{name} = {operand}"
  | absent name => s!"attribute_not_exists({name})"
  | both first second => s!"{text first} AND {text second}"
  | either first second => s!"({text first} OR {text second})"

end Condition

def Change.text : Change → String
  | assign name operand => s!"SET {name} = {operand}"
  | grow name start amount => s!"SET {name} = if_not_exists({name}, {start}) + {amount}"

/-- The request to count one more sent file. -/
def countUpdate (table correlationId collection : String) : Update where
  table := table
  key := rowKey correlationId collection
  change := .grow "#sent" ":zero" ":one"
  condition := none
  names := [("#sent", sentAttribute)]
  values := [(":zero", .number "0"), (":one", .number "1")]
  returnsItem := true

/-- The request to give an unchanged row a new status. -/
def statusUpdate (table correlationId collection : String) (expected : StatusRecord)
    (status : ExportStatus) : Update where
  table := table
  key := rowKey correlationId collection
  change := .assign "#status" ":new"
  condition := some (.unchanged expected)
  names := [("#status", statusAttribute), ("#exported", exportedAttribute),
    ("#sent", sentAttribute)]
  values := [(":new", .text status.text), (":expected", .text expected.status.text),
    (":exported", .number (toString expected.exported)),
    (":sent", .number (toString expected.sent))]
  returnsItem := false

/-- Counts one more sent file and gives the new count. -/
def countSent (table correlationId collection : String) : Procedure Int := ExceptT.mk do
  let item : Except Refusal (Option AttributeMap) ←
    (Step.update (countUpdate table correlationId collection)).ask
  match item with
  | .ok item => return .ok ((item.map (numberOf · sentAttribute)).getD 0)
  | .error _ => return .error (tableFailed .increment)

def readRow (table correlationId collection : String) :
    Procedure (Option StatusRecord) := ExceptT.mk do
  let item : Except Refusal (Option AttributeMap) ←
    (Step.readItem table (rowKey correlationId collection)).ask
  match item with
  | .ok item => return .ok (item.map recordOf)
  | .error _ => return .error (tableFailed .read)

/-- Gives a row a new status, if it is still as expected; whether it was. -/
def changeStatus (table correlationId collection : String) (expected : StatusRecord)
    (status : ExportStatus) : Procedure Bool := ExceptT.mk do
  let item : Except Refusal (Option AttributeMap) ←
    (Step.update (statusUpdate table correlationId collection expected status)).ask
  match item with
  | .ok _ => return .ok true
  | .error .conditionFailed => return .ok false
  | .error _ => return .error (tableFailed .update)

def allRows (table correlationId : String) : Procedure (List StatusRecord) := ExceptT.mk do
  let pages : Passage ItemPage.next [] ← (Step.queryPages table correlationId).ask
  return readPages (fun page => page.items.map recordOf) (tableFailed .query) pages.answers []

end Courier.Services

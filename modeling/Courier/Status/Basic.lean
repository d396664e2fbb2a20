/-!
The states of exported collections. The status table has a row for every collection of an export,
with a status and two counters; what the rows say together is the completion of the export. An
absent counter reads as zero.
-/

namespace Courier

inductive ExportStatus where
  | exporting
  | exported
  | sent
  | received
  | success
  | exportFailed
  | blockedTopic
  | tableUnavailable
  /-- A status of another system, kept as it is. -/
  | other (text : String)
  /-- The row has no status. -/
  | missing
  deriving DecidableEq, Repr

namespace ExportStatus

def text : ExportStatus → String
  | exporting => "Exporting"
  | exported => "Exported"
  | sent => "Sent"
  | received => "Received"
  | success => "Success"
  | exportFailed => "Export_Failed"
  | blockedTopic => "Blocked_Topic"
  | tableUnavailable => "Table_Unavailable"
  | other text => text
  | missing => ""

/-- The statuses with a text of their own. -/
def known : List ExportStatus :=
  [exporting, exported, sent, received, success, exportFailed, blockedTopic, tableUnavailable,
    missing]

def ofText (s : String) : ExportStatus :=
  (known.find? fun status => status.text == s).getD (other s)

/-- Whether the collection has reached the other side. -/
def isDelivered : ExportStatus → Bool
  | sent | received | success => true
  | _ => false

/-- Whether the collection can no longer reach the other side. -/
def isFailed : ExportStatus → Bool
  | exportFailed | blockedTopic | tableUnavailable => true
  | _ => false

theorem isDelivered_iff {status : ExportStatus} :
    status.isDelivered ↔ status ∈ [sent, received, success] := by
  cases status <;> simp [isDelivered]

theorem isFailed_iff {status : ExportStatus} :
    status.isFailed ↔ status ∈ [exportFailed, blockedTopic, tableUnavailable] := by
  cases status <;> simp [isFailed]

end ExportStatus

/-- What a worker knows of its collection after looking at the row. -/
inductive CollectionState where
  /-- Every exported file has been sent. -/
  | sent
  /-- There was nothing to send. -/
  | noFiles
  | inProgress
  deriving DecidableEq, Repr

inductive Completion where
  | successful
  | unsuccessful
  | notCompleted
  deriving DecidableEq, Repr

namespace Completion

def description : Completion → String
  | successful => "Completed successfully"
  | unsuccessful => "Failed"
  | notCompleted => "In progress"

def symbol : Completion → String
  | successful => "COMPLETED_SUCCESSFULLY"
  | unsuccessful => "COMPLETED_UNSUCCESSFULLY"
  | notCompleted => "NOT_COMPLETED"

/-- The completion of an export whose collections have the given statuses. An export without
    collections is not completed. -/
def ofStatuses (statuses : List ExportStatus) : Completion :=
  if statuses.isEmpty then notCompleted
  else if statuses.all ExportStatus.isDelivered then successful
  else if statuses.any ExportStatus.isFailed then unsuccessful
  else notCompleted

end Completion

/-- A row of the status table as it is read. -/
structure StatusRecord where
  collection : String
  status : ExportStatus
  exported : Int
  sent : Int
  deriving DecidableEq, Repr

/-- What is read where there is no row. -/
def StatusRecord.absent : StatusRecord := ⟨"", .missing, 0, 0⟩

end Courier

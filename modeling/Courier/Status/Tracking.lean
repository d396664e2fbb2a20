import Courier.Call

/-!
What a worker does to the status table. It counts its sent files on the row of its collection. The
worker that sees as many files sent as were exported moves the row on, by a write that takes effect
only if the row is still as it was read, so that racing workers do not both move it.
-/

namespace Courier

/-- The row of the collection a worker sends, and the patience for calls about it. -/
structure Tracker where
  correlationId : String
  collection : String
  policy : RetryPolicy

namespace Tracker

def ofSettings (settings : Settings) : Tracker :=
  ⟨settings.run.correlationId, settings.run.topicName, settings.retries.statusTable⟩

def countSent (tracker : Tracker) : Errand Unit := do
  let _ : Int ←
    retry tracker.policy (Call.increment tracker.correlationId tracker.collection).errand
  return ()

def current (tracker : Tracker) : Errand StatusRecord := do
  let row : Option StatusRecord ← (Call.readRow tracker.correlationId tracker.collection).errand
  return row.getD .absent

/-- Where a row goes whose files have all been sent, and what that means to the worker. -/
def target (record : StatusRecord) : ExportStatus × CollectionState :=
  if 0 < record.exported then (.sent, .sent) else (.received, .noFiles)

/-- What a row says after another worker has moved it. -/
def stateOf : ExportStatus → CollectionState
  | .sent => .sent
  | .received => .noFiles
  | _ => .inProgress

/-- Whether every exported file has been sent and nobody has moved the row. -/
def isDue (record : StatusRecord) : Bool :=
  record.status == .exported && record.exported == record.sent

/-- Reads the row and moves it on if it is due. -/
def tryAdvance (tracker : Tracker) : Errand CollectionState := do
  let record ← tracker.current
  if isDue record then
    let (status, state) := target record
    let applied : Bool ←
      (Call.transition tracker.correlationId tracker.collection record status).errand
    if applied then return state
    let winner ← tracker.current
    return stateOf winner.status
  else return .inProgress

/-- Moves the row on once all files are sent; reading and writing are tried again together. -/
def advance (tracker : Tracker) : Errand CollectionState := retry tracker.policy tracker.tryAdvance

def completion (tracker : Tracker) : Errand Completion := do
  let records : List StatusRecord ← retry tracker.policy (Call.rows tracker.correlationId).errand
  return .ofStatuses (records.map StatusRecord.status)

end Tracker

end Courier

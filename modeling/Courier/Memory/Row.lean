import Courier.Memory.Entries
import Courier.Status.Basic

/-!
The status table in memory. A row has a status and two counters, which may be absent; it is found by
the export and the collection it belongs to.
-/

namespace Courier.Memory

structure Row where
  status : ExportStatus
  exported : Option Int
  sent : Option Int
  deriving DecidableEq, Repr

namespace Row

/-- A row that has just been made by counting. -/
def empty : Row := ⟨.missing, none, none⟩

def record (row : Row) (collection : String) : StatusRecord :=
  ⟨collection, row.status, row.exported.getD 0, row.sent.getD 0⟩

def count (row : Row) : Int := row.sent.getD 0

def counted (row : Row) : Row := { row with sent := some (row.count + 1) }

theorem counted_sent (row : Row) : row.counted.sent.getD 0 = row.sent.getD 0 + 1 := rfl

def agrees (row : Row) (expected : StatusRecord) : Bool :=
  row.status == expected.status && row.exported.getD 0 == expected.exported
    && row.sent.getD 0 == expected.sent

end Row

/-- Rows by export and collection. -/
abbrev Table := List ((String × String) × Row)

namespace Table

/-- The records of an export, in the order of their collections. -/
def records (table : Table) (correlationId : String) : List StatusRecord :=
  ((table.filter fun entry => entry.1.1 == correlationId).map fun entry =>
    entry.2.record entry.1.2).mergeSort fun a b => decide (a.collection ≤ b.collection)

end Table

end Courier.Memory

import Courier.Call
import Courier.Memory.Row

/-!
Collaborators in memory, which answer every call of a sender and remember it. Any call may be made
to fail beforehand; a call that fails so has no other effect. Time passes only while a program
waits.
-/

namespace Courier.Memory

/-- What a call is about, by which failures are planned. -/
inductive CallKind where
  | list
  | contains
  | get
  | put
  | unwrap
  | deliver
  | increment
  | readRow
  | transition
  | rows
  | publish
  deriving DecidableEq, Repr

def kindOf : Call → CallKind
  | .list _ => .list
  | .contains _ => .contains
  | .get _ => .get
  | .put .. => .put
  | .unwrap .. => .unwrap
  | .deliver .. => .deliver
  | .increment .. => .increment
  | .readRow .. => .readRow
  | .transition .. => .transition
  | .rows _ => .rows
  | .publish .. => .publish

/-- A call that has been made, and the failure that had been planned for it. -/
structure Event where
  call : Call
  fault : Option Failure

structure DataKey where
  keyId : String
  wrapped : String
  plain : String
  deriving DecidableEq

/-- All collaborators at one moment. -/
structure World where
  objects : List (String × StoredObject)
  table : Table
  dataKeys : List DataKey
  /-- What the next calls of a kind come to: a failure, or nothing planned. -/
  faults : CallKind → List (Option Failure)
  /-- What another system writes right before the next transition of a row. -/
  interloper : Option Row
  /-- The greatest number of bytes in a piece of a stored body. -/
  pieceSize : Nat
  /-- The nanoseconds that have passed. -/
  clock : Nat
  /-- The calls so far, the last one first. -/
  events : List Event

/-- Cuts bytes into pieces of `size`, or of one if that is zero; the last piece may be shorter. -/
def cutPieces (size : Nat) : List UInt8 → Body
  | [] => []
  | b :: bs => .ok (b :: bs.take (size - 1)) :: cutPieces size (bs.drop (size - 1))
termination_by bs => bs.length
decreasing_by simp only [List.length_cons, List.length_drop]; omega

namespace World

/-- Nothing is there and nothing has happened. -/
def empty : World := ⟨[], [], [], fun _ => [], none, 1, 0, []⟩

/-- The keys of all objects, in their order. -/
def keys (world : World) : List String :=
  (world.objects.map Prod.fst).mergeSort fun a b => decide (a ≤ b)

def store (world : World) (key : String) (object : StoredObject) : World :=
  { world with objects := insert world.objects key object }

def remove (world : World) (key : String) : World :=
  { world with objects := erase world.objects key }

def setRow (world : World) (correlationId collection : String) (row : Row) : World :=
  { world with table := insert world.table (correlationId, collection) row }

/-- Plans what the next calls of a kind come to, behind what is planned already. -/
def plan (world : World) (kind : CallKind) (faults : List (Option Failure)) : World :=
  { world with faults := fun other =>
      if other = kind then world.faults kind ++ faults else world.faults other }

/-- The row as a transition finds it: another system may have written it just before. -/
def disturbed (world : World) (correlationId collection : String) (row : Row) : Row × World :=
  match world.interloper with
  | none => (row, world)
  | some written =>
    (written, { world.setRow correlationId collection written with interloper := none })

/-- Answers a call for which no failure is planned. -/
def perform (world : World) : (call : Call) → call.Answer × World
  | .list folder => (.ok (world.keys.filter (Text.startsWith folder)), world)
  | .contains key => (.ok (find? world.objects key).isSome, world)
  | .get key =>
    match find? world.objects key with
    | some object => (.ok object, world)
    | none => (.error ⟨.objectStore, .reported s!"NoSuchKey: {key}"⟩, world)
  | .put key content _ metadata =>
    (.ok (), world.store key ⟨cutPieces world.pieceSize content, metadata⟩)
  | .unwrap keyId wrapped =>
    match world.dataKeys.find? fun entry => entry.keyId == keyId && entry.wrapped == wrapped with
    | some entry => (.ok entry.plain, world)
    | none => (.error ⟨.keyRejected, .reported s!"no data key for '{keyId}'"⟩, world)
  | .deliver _ body =>
    match body.bytes with
    | .ok _ => (.ok (), world)
    | .error fault => (.error ⟨.io, .reported fault.text⟩, world)
  | .increment correlationId collection =>
    let row := ((find? world.table (correlationId, collection)).getD .empty).counted
    (.ok row.count, world.setRow correlationId collection row)
  | .readRow correlationId collection =>
    (.ok ((find? world.table (correlationId, collection)).map (·.record collection)), world)
  | .transition correlationId collection expected status =>
    match find? world.table (correlationId, collection) with
    | none => (.ok false, world)
    | some row =>
      let (row, world) := world.disturbed correlationId collection row
      if row.agrees expected then
        (.ok true, world.setRow correlationId collection { row with status })
      else (.ok false, world)
  | .rows correlationId => (.ok (world.table.records correlationId), world)
  | .publish _ _ => (.ok "", world)

def note (world : World) (event : Event) : World :=
  { world with events := event :: world.events }

/-- Takes off what is planned for the next call of a kind. -/
def nextFault (world : World) (kind : CallKind) : Option Failure × World :=
  match world.faults kind with
  | [] => (none, world)
  | planned :: rest =>
    (planned, { world with faults := fun other =>
      if other = kind then rest else world.faults other })

def answer (call : Call) (world : World) : call.Answer × World :=
  let (fault, world) := world.nextFault (kindOf call)
  let world := world.note ⟨call, fault⟩
  match fault with
  | some failure => (.error failure, world)
  | none => world.perform call

def pass (nanos : Nat) (world : World) : World := { world with clock := world.clock + nanos }

/-- Runs an errand. There is no result if it needs a delay that has no value. -/
def run {α : Type} (errand : Errand α) (world : World) : Option (Except Failure α) × World :=
  Program.run answer pass errand.run world

end World

end Courier.Memory

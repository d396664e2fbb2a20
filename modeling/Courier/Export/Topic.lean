import Courier.Failure
import Courier.Text.Blank
import Courier.Text.Word

/-!
Names of export files. A name is `[label.]database.collection-counters.ext.ext`, where the counters
are a number, behind two groups of three digits or alone. Name and topic share the database and the
collection; the topic keeps the label `db.`. The number of full stops says whether there is a label,
and the collection ends as early as what follows can be read as counters.
-/

namespace Courier

/-- A collection of a database, and the topic that carries it. -/
structure Topic where
  database : String
  collection : String
  name : String
  deriving DecidableEq, Repr

namespace ExportName

open Text

/-- A non-empty run of characters of one class. -/
def isRun (member : Char → Bool) (cs : List Char) : Bool := !cs.isEmpty && cs.all member

/-- Whether the text is counters: a number, or two groups of three digits and a number, with
    hyphens between them. -/
def isCounters (cs : List Char) : Bool :=
  match cut '-' cs with
  | [number] => isRun isDecimal number
  | [first, second, number] =>
    first.length == 3 && first.all isDecimal && second.length == 3 && second.all isDecimal
      && isRun isDecimal number
  | _ => false

/-- The collection in front of a hyphen and counters, the shortest there is. -/
def collection? : List Char → Option (List Char)
  | [] => none
  | c :: cs =>
    if !isWordOrHyphen c then none
    else match cs with
      | '-' :: rest => if isCounters rest then some [c] else (collection? cs).map (c :: ·)
      | _ => (collection? cs).map (c :: ·)

/-- Database and collection of a name cut at its full stops, the label apart. -/
def readPieces? : List (List Char) → Option (List Char × List Char)
  | [database, segment, first, second] =>
    if isRun isWordOrHyphen database && isRun isWord first && isRun isWord second then
      (collection? segment).map fun collection => (database, collection)
    else none
  | _ => none

/-- Database and collection of a name. -/
def read? (name : List Char) : Option (List Char × List Char) :=
  match cut '.' name with
  | [label, database, segment, first, second] =>
    if isRun isWord label then readPieces? [database, segment, first, second] else none
  | pieces => readPieces? pieces

/-- The label that topics keep. -/
def keptLabel : String := "db."

end ExportName

namespace Topic

def ofFileName? (name : String) : Option Topic :=
  (ExportName.read? name.toList).map fun (database, collection) =>
    let database := String.ofList database
    let collection := String.ofList collection
    let label := if Text.startsWith ExportName.keptLabel name then ExportName.keptLabel else ""
    ⟨database, collection, label ++ database ++ "." ++ collection⟩

def resolve (blocked : List String) (name : String) : Except Failure Topic :=
  match ofFileName? name with
  | none => .error ⟨.metadata, .nameMismatch name⟩
  | some topic =>
    if topic.name ∈ blocked then .error ⟨.blockedTopic, .topicBlocked topic.name⟩ else .ok topic

end Topic

end Courier

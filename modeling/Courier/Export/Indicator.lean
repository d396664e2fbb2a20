import Courier.Export.Headers

/-!
The success indicator: an empty compressed file that tells the ingestion side that a collection has
nothing left to send. Its name comes from the run's topic, which starts like an export file's name:
`[label.]database.collection`.
-/

namespace Courier.Indicator

open Text

/-- Database and collection at the start of a text, each as long as it can be. -/
def readCollection? (cs : List Char) : Option (List Char × List Char) :=
  match cs.takeWhile isWordOrHyphen, cs.dropWhile isWordOrHyphen with
  | d :: database, '.' :: rest =>
    match rest.takeWhile isWordOrHyphen with
    | [] => none
    | collection => some (d :: database, collection)
  | _, _ => none

/-- Database and collection of a topic's name. A label is taken off if it leaves both. -/
def readTopic? (cs : List Char) : Option (List Char × List Char) :=
  match cs.takeWhile isWord, cs.dropWhile isWord with
  | _ :: _, '.' :: rest => (readCollection? rest).or (readCollection? cs)
  | _, _ => readCollection? cs

def headers? (topicName : String) : Option FileHeaders :=
  (readTopic? topicName.toList).map fun (database, collection) =>
    let database := String.ofList database
    let collection := String.ofList collection
    ⟨"_" ++ database ++ "_" ++ collection ++ "_successful.gz", database, collection, topicName⟩

/-- A gzip member that holds no bytes: header, one empty block, checksum and length. -/
def body : List UInt8 :=
  [0x1f, 0x8b, 0x08, 0, 0, 0, 0, 0, 0, 0xff, 0x03, 0, 0, 0, 0, 0, 0, 0, 0, 0]

end Courier.Indicator

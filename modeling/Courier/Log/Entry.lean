import Courier.Json.Basic
import Courier.Log.Filter

/-!
Entries of the log, and the lines they are written as.
-/

namespace Courier.Log

structure Entry where
  target : String
  level : Level
  message : String
  values : List (String × Json)

namespace Entry

def event (entry : Entry) : Event :=
  ⟨entry.target, entry.level, "message" :: entry.values.map Prod.fst⟩

/-- All values, the message among them. -/
def fields (entry : Entry) : List (String × Json) :=
  ("message", .string entry.message) :: entry.values

def json (config : Config) (entry : Entry) : Json :=
  .object ([("level", .string entry.level.word.toUpper), ("fields", .object entry.fields)]
    ++ if config.showTarget then [("target", .string entry.target)] else [])

def words (config : Config) (entry : Entry) : String :=
  let target := if config.showTarget then [entry.target ++ ":"] else []
  let values := entry.values.map fun (name, value) => name ++ "=" ++ value.text
  String.intercalate " " ([entry.level.word.toUpper] ++ target ++ [entry.message] ++ values)

def line (config : Config) (entry : Entry) : String :=
  match config.format with
  | .json => (entry.json config).text
  | .text => entry.words config

end Entry

end Courier.Log

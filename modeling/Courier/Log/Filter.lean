import Courier.Log.Basic
import Courier.Text.Word

/-!
Which events of the log are written. Directives set thresholds for parts of the program; of the
directives that apply to an event the most specific one decides, and without any nothing is written.
A directive that speaks of spans of time says nothing about single events.
-/

namespace Courier.Log

/-- The least important level that is written, if any is. -/
abbrev Threshold := Option Level

/-- An event of the log, apart from its values. -/
structure Event where
  target : String
  level : Level
  fields : List String
  deriving DecidableEq, Repr

structure Directive where
  /-- The start of the targets it applies to. -/
  target : Option String
  /-- The span of time it applies to. -/
  span : Option String
  /-- The fields an event has to have, and their values if those matter. -/
  fields : List (String × Option String)
  threshold : Threshold
  deriving DecidableEq, Repr

namespace Directive

def numbered : List (Nat × Threshold) :=
  [(0, none), (1, some .error), (2, some .warn), (3, some .info), (4, some .debug),
    (5, some .trace)]

def worded : List (String × Threshold) :=
  [("off", none), ("error", some .error), ("warn", some .warn), ("info", some .info),
    ("debug", some .debug), ("trace", some .trace)]

/-- The threshold a number or a word sets. -/
def readThreshold? (text : String) : Option Threshold :=
  match (Text.readUnsigned? 64 text).bind fun n => numbered.lookup n with
  | some threshold => some threshold
  | none => worded.lookup (Text.lower text)

/-- A threshold behind an equals sign; none at all writes everything. -/
def readSet? (cs : List Char) : Option Threshold :=
  if cs.isEmpty then some (some .trace) else readThreshold? (String.ofList cs)

/-- What may follow a span: nothing, or an equals sign and a threshold. -/
def readEnd? : List Char → Option Threshold
  | [] => some (some .trace)
  | '=' :: cs => readSet? cs
  | _ => none

/-- A field and its value behind an equals sign. -/
def readField? (cs : List Char) : Option (String × Option String) :=
  if cs.isEmpty then none
  else match Text.cut '=' cs with
    | name :: value :: _ => some (String.ofList name, some (String.ofList value))
    | _ => some (String.ofList cs, none)

/-- A span behind its opening bracket: a name, maybe a field between braces, and a closing bracket.
    -/
def readSpan? (target : Option String) (cs : List Char) : Option Directive :=
  let name := cs.takeWhile fun c => c != ']' && c != '\x7b'
  match cs.drop name.length with
  | ']' :: rest =>
    (readEnd? rest).map fun threshold => ⟨target, some (String.ofList name), [], threshold⟩
  | '\x7b' :: rest =>
    let inner := rest.takeWhile (· != '\x7d')
    match rest.drop inner.length with
    | '\x7d' :: ']' :: rest => do
      let field ← readField? inner
      let threshold ← readEnd? rest
      return ⟨target, if name.isEmpty then none else some (String.ofList name), [field], threshold⟩
    | _ => none
  | _ => none

/-- Whether a target or a level may start so. -/
def isStart (c : Char) : Bool := Text.isWordOrHyphen c || c == ':'

/-- The directive a text writes, without blanks around it. A text without any mark is a level, or
    else a target of which everything is written. -/
def read? (text : String) : Option Directive :=
  match text.toList with
  | [] => none
  | '[' :: cs => readSpan? none cs
  | c :: cs =>
    if !isStart c then none
    else
      let head := (c :: cs).takeWhile fun c => c != '=' && c != '['
      let name := String.ofList head
      match (c :: cs).drop head.length with
      | '=' :: rest => (readSet? rest).map fun threshold => ⟨some name, none, [], threshold⟩
      | '[' :: rest => readSpan? (some name) rest
      | _ =>
        match readThreshold? name with
        | some threshold => some ⟨none, none, [], threshold⟩
        | none => some ⟨some name, none, [], some .trace⟩

/-- Whether the directive speaks of single events. -/
def isPlain (directive : Directive) : Bool :=
  directive.span.isNone && directive.fields.all fun field => field.2.isNone

def applies (directive : Directive) (event : Event) : Bool :=
  (directive.target.all fun start => Text.startsWith start event.target)
    && directive.fields.all fun field => event.fields.contains field.1

/-- Whether two directives apply to the same events. -/
def sameScope (a b : Directive) : Bool := a.target == b.target && a.fields == b.fields

/-- The bytes of the target, one more than that for every target there is. -/
def targetSize (directive : Directive) : Nat :=
  match directive.target with
  | none => 0
  | some target => target.utf8ByteSize + 1

/-- Whether the first directive is the more specific one: its target is longer, or it asks for more
    fields, or it is later in the order of texts. -/
def outranks (a b : Directive) : Bool :=
  if a.targetSize ≠ b.targetSize then b.targetSize < a.targetSize
  else if a.fields.length ≠ b.fields.length then b.fields.length < a.fields.length
  else if a.target ≠ b.target then decide (b.target.getD "" < a.target.getD "")
  else decide (b.fields.map Prod.fst < a.fields.map Prod.fst)

/-- The directive that writes a level and everything above it. -/
def general (level : Level) : Directive := ⟨none, none, [], some level⟩

end Directive

/-- The directives about single events, the most specific one first. -/
structure Filter where
  directives : List Directive

namespace Filter

def empty : Filter := ⟨[]⟩

/-- Puts a directive in front of the first one it outranks. -/
def place (directive : Directive) : List Directive → List Directive
  | [] => [directive]
  | other :: rest =>
    if directive.outranks other then directive :: other :: rest else other :: place directive rest

/-- Adds a directive, which takes the place of one with the same scope. -/
def add (filter : Filter) (directive : Directive) : Filter :=
  if directive.isPlain then
    ⟨place directive (filter.directives.filter fun other => !other.sameScope directive)⟩
  else filter

def writes (filter : Filter) (event : Event) : Bool :=
  match filter.directives.find? (·.applies event) with
  | some directive => directive.threshold.any fun level => level.rank ≤ event.level.rank
  | none => false

/-- The directives of a text that can be read; errors alone are written if there are none. -/
def ofVariable (text : String) : Filter :=
  match (Text.commaPieces text).filterMap Directive.read? with
  | [] => empty.add (.general .error)
  | directives => directives.foldl add empty

/-- Adds directives, all of which have to be readable. -/
def addAll (filter : Filter) : List String → Except Failure Filter
  | [] => .ok filter
  | text :: rest =>
    match Directive.read? text with
    | none => .error (.badValue "log filter directive" text)
    | some directive => addAll (filter.add directive) rest

end Filter

/-- The variable whose directives come before those of the settings. -/
def filterVariable : String := "RUST_LOG"

/-- The filter of the settings. -/
def Config.writtenEvents (config : Config) (env : Environment) : Except Failure Filter :=
  let filter := (Filter.ofVariable ((env.raw? filterVariable).getD "")).add (.general config.level)
  filter.addAll ((config.filter.map Text.commaEntries).getD [])

/-- Sets the log up: the filter, then the folder for files if there are any. Making the folder may
    fail, and there is only one log. -/
def Config.install (config : Config) (env : Environment) (makeFolder : String → Except String Unit)
    (installed : Bool) : Except Failure Filter := do
  let filter ← config.writtenEvents env
  if config.output.toFile then
    match makeFolder config.folder with
    | .ok _ => pure ()
    | .error reason => throw ⟨.settingIo, .reported reason⟩
  if installed then
    throw ⟨.logging, .reported "a global default trace dispatcher has already been set"⟩
  return filter

end Courier.Log

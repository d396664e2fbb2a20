import Courier.Settings.Reading

/-!
The command line of the sender. An option has its value behind an equals sign or in the next
argument; a switch has none. What is given here takes the place of the settings from the
environment, for one run. A value that stands in an argument of its own is looked at only when the
next option, the next switch or the end is reached.
-/

namespace Courier.CommandLine

/-- Options, which have a value. -/
inductive Name where
  | envFile
  | correlationId
  | topicName
  | exportDate
  | snapshotType
  | folder
  | blockedTopics
  | workers
  | skipLimit
  deriving DecidableEq, Repr

/-- Switches, which have none. -/
inductive Switch where
  | indicatorOnly
  | reprocess
  | shutdown
  | checkOnly
  | verbose
  | help
  | version
  deriving DecidableEq, Repr

/-- Why a command line is not carried out. Asking for help or the version is one reason. -/
inductive Refusal where
  | unknownArgument
  /-- A value is missing or may not be empty. -/
  | valueMissing
  /-- A value cannot be read. -/
  | valueUnreadable
  /-- An option or a switch is given twice. -/
  | repeated
  /-- A switch is given a value. -/
  | valueNotWanted
  | help
  | version
  deriving DecidableEq, Repr

/-- What a command line says. -/
structure Options where
  envFile : Option String
  correlationId : Option String
  topicName : Option String
  exportDate : Option String
  snapshotType : Option String
  folder : Option String
  blockedTopics : Option (List String)
  workers : Option Nat
  skipLimit : Option Nat
  indicatorOnly : Bool
  reprocess : Bool
  shutdown : Bool
  checkOnly : Bool
  verbose : Bool
  deriving DecidableEq, Repr

namespace Options

def none : Options :=
  ⟨.none, .none, .none, .none, .none, .none, .none, .none, .none, false, false, false, false, false⟩

/-- Fills in what may be given once. -/
def once {α : Type} (given : Option α) (value : Except Refusal α) : Except Refusal (Option α) :=
  match given with
  | .some _ => .error .repeated
  | .none => value.map Option.some

/-- A name of a file, which is not empty. -/
def readPath (text : String) : Except Refusal String :=
  if text.isEmpty then .error .valueMissing else .ok text

/-- A count below `2 ^ 64`. -/
def readCount (text : String) : Except Refusal Nat :=
  match Text.readUnsigned? 64 text with
  | .some n => .ok n
  | .none => .error .valueUnreadable

/-- Gives an option its value. Blocked topics add up; everything else is given once. -/
def give (options : Options) (text : String) : Name → Except Refusal Options
  | .envFile => return { options with envFile := ← once options.envFile (readPath text) }
  | .correlationId =>
    return { options with correlationId := ← once options.correlationId (.ok text) }
  | .topicName => return { options with topicName := ← once options.topicName (.ok text) }
  | .exportDate => return { options with exportDate := ← once options.exportDate (.ok text) }
  | .snapshotType => return { options with snapshotType := ← once options.snapshotType (.ok text) }
  | .folder => return { options with folder := ← once options.folder (.ok text) }
  | .blockedTopics =>
    let topics := options.blockedTopics.getD [] ++ Text.commaPieces text
    return { options with blockedTopics := .some topics }
  | .workers => return { options with workers := ← once options.workers (readCount text) }
  | .skipLimit => return { options with skipLimit := ← once options.skipLimit (readCount text) }

/-- Turns a switch on that is still off. -/
def switchOn (options : Options) : Switch → Except Refusal Options
  | .indicatorOnly =>
    if options.indicatorOnly then .error .repeated else .ok { options with indicatorOnly := true }
  | .reprocess =>
    if options.reprocess then .error .repeated else .ok { options with reprocess := true }
  | .shutdown =>
    if options.shutdown then .error .repeated else .ok { options with shutdown := true }
  | .checkOnly =>
    if options.checkOnly then .error .repeated else .ok { options with checkOnly := true }
  | .verbose =>
    if options.verbose then .error .repeated else .ok { options with verbose := true }
  | .help => .error .help
  | .version => .error .version

/-- The settings with what the command line says in their place. A switch can only turn on. -/
def apply (options : Options) (settings : Settings) : Settings :=
  let folder := options.folder.getD settings.storage.folder
  { settings with
    run := { settings.run with
      correlationId := options.correlationId.getD settings.run.correlationId
      topicName := options.topicName.getD settings.run.topicName
      exportDate := options.exportDate.getD settings.run.exportDate
      snapshotType := options.snapshotType.getD settings.run.snapshotType
      objectFolder := options.folder.getD settings.run.objectFolder
      reprocess := settings.run.reprocess || options.reprocess
      shutdown := settings.run.shutdown || options.shutdown }
    storage := { settings.storage with folder }
    handling := { settings.handling with
      blockedTopics := options.blockedTopics.getD settings.handling.blockedTopics
      workers := options.workers.getD settings.handling.workers
      skipLimit := options.skipLimit.getD settings.handling.skipLimit
      indicatorOnly := settings.handling.indicatorOnly || options.indicatorOnly } }

end Options

def names : List (String × Name) :=
  [("env-file", .envFile), ("correlation-id", .correlationId), ("topic-name", .topicName),
    ("export-date", .exportDate), ("snapshot-type", .snapshotType), ("s3-prefix-folder", .folder),
    ("blocked-topics", .blockedTopics), ("thread-count", .workers), ("skip-limit", .skipLimit)]

def switches : List (String × Switch) :=
  [("send-success-indicator", .indicatorOnly), ("reprocess-files", .reprocess),
    ("shutdown-flag", .shutdown), ("check-config", .checkOnly), ("verbose", .verbose),
    ("help", .help), ("version", .version)]

def letters : List (Char × Switch) := [('v', .verbose), ('h', .help), ('V', .version)]

/-- The reading of a command line between two arguments. -/
structure Progress where
  options : Options
  /-- An option that has been named, and its value if that has come. -/
  waiting : Option (Name × Option String)

namespace Progress

/-- Gives the option that waits its value. -/
def settle (progress : Progress) : Except Refusal Options :=
  match progress.waiting with
  | none => .ok progress.options
  | some (_, none) => .error .valueMissing
  | some (name, some text) => progress.options.give text name

def takeLetters (progress : Progress) : List Char → Except Refusal Progress
  | [] => .ok progress
  | c :: cs =>
    match letters.lookup c with
    | none => .error .unknownArgument
    | some switch => do
      let options ← (← progress.settle).switchOn switch
      takeLetters ⟨options, none⟩ cs

/-- Takes a word, with the value behind its equals sign, if there is one. -/
def takeWord (progress : Progress) (word : String) (value : Option String) :
    Except Refusal Progress :=
  match names.lookup word, switches.lookup word, value with
  | some name, _, some text => do return ⟨← (← progress.settle).give text name, none⟩
  | some name, _, none => do return ⟨← progress.settle, some (name, none)⟩
  | none, some _, some _ => .error .valueNotWanted
  | none, some switch, none => do return ⟨← (← progress.settle).switchOn switch, none⟩
  | none, none, _ => .error .unknownArgument

/-- Takes an argument that is neither a word nor letters. -/
def takeValue (progress : Progress) (text : String) : Except Refusal Progress :=
  match progress.waiting with
  | some (name, none) => .ok { progress with waiting := some (name, some text) }
  | _ => .error .unknownArgument

/-- A word and what stands behind its first equals sign. -/
def splitWord (cs : List Char) : String × Option String :=
  match cs.dropWhile (· != '=') with
  | [] => (String.ofList cs, none)
  | _ :: value => (String.ofList (cs.takeWhile (· != '=')), some (String.ofList value))

def take (progress : Progress) (argument : String) : Except Refusal Progress :=
  match argument.toList with
  | '-' :: '-' :: rest =>
    let (word, value) := splitWord rest
    progress.takeWord word value
  | '-' :: c :: rest => progress.takeLetters (c :: rest)
  | _ => progress.takeValue argument

end Progress

/-- Reads arguments. Behind two hyphens alone nothing may follow. -/
def readFrom (progress : Progress) : List String → Except Refusal Options
  | [] => progress.settle
  | argument :: rest =>
    if argument = "--" then
      if rest.isEmpty then progress.settle else .error .unknownArgument
    else do
      let progress ← progress.take argument
      readFrom progress rest

/-- The variable that names the file of further variables. -/
def envFileVariable : String := "SNAPSHOT_SENDER_ENV_FILE"

/-- Reads a command line. The environment may name the file of further variables instead. -/
def read (env : Environment) (arguments : List String) : Except Refusal Options := do
  let options ← readFrom ⟨.none, none⟩ arguments
  match options.envFile, env.raw? envFileVariable with
  | none, some text => options.give text .envFile
  | _, _ => return options

end Courier.CommandLine

import Courier.CommandLine
import Courier.EnvFile
import Courier.Log.Entry
import Courier.Run.Closing
import Courier.Services.Connected

/-!
Launching the sender: the command line, the file of variables, the log and the settings, in this
order. Whatever cannot be read ends the launch. A launch that only checks the settings ends before
the first remote call.
-/

namespace Courier.Launch

/-- What a launch finds on its machine. -/
structure Machine where
  arguments : List String
  environment : Environment
  /-- The content of a file, if there is one. -/
  contentOf : String → Option (List UInt8)
  makeFolder : String → Except String Unit

/-- Why a launch ends before the sender runs. -/
inductive Obstacle where
  | commandLine (refusal : CommandLine.Refusal)
  | envFile (path : String)
  | failure (failure : Failure)
  deriving DecidableEq

structure Ready where
  settings : Settings
  checkOnly : Bool
  logging : Log.Config
  filter : Log.Filter

/-- The file of variables that is read when none is named; nothing depends on it. -/
def usualEnvFile : String := ".env"

/-- The file of variables a launch reads. -/
def envFileOf (options : CommandLine.Options) : String := options.envFile.getD usualEnvFile

/-- The environment with the variables of the file. A file that is named has to be readable. -/
def readEnvFile (machine : Machine) (options : CommandLine.Options) : Except Obstacle Environment :=
  let loaded := (machine.contentOf (envFileOf options)).map (EnvFile.load machine.environment)
  match options.envFile, loaded with
  | none, some (env, _) => .ok env
  | none, none => .ok machine.environment
  | some _, some (env, true) => .ok env
  | some path, _ => .error (.envFile path)

/-- The log settings before the environment is asked. -/
def logConfigOf (options : CommandLine.Options) : Log.Config :=
  if options.verbose then { Log.Config.standard with level := .debug, output := .console }
  else .standard

/-- What the command line, the file of variables and the log settings say. -/
def readLogging (machine : Machine) :
    Except Obstacle (CommandLine.Options × Environment × Log.Config) := do
  let options ← (CommandLine.read machine.environment machine.arguments).mapError .commandLine
  let env ← readEnvFile machine options
  let logging ← ((logConfigOf options).overlay env).mapError .failure
  return (options, env, logging)

/-- The folder that is made for log files, if there are any. -/
def logFolder? (machine : Machine) : Option String :=
  match readLogging machine with
  | .ok (_, env, logging) =>
    if logging.output.toFile && (logging.writtenEvents env).isOk then some logging.folder else none
  | .error _ => none

def prepare (machine : Machine) : Except Obstacle Ready := do
  let (options, env, logging) ← readLogging machine
  let filter ← (logging.install env machine.makeFolder false).mapError .failure
  let settings ← (Settings.read env).mapError .failure
  let settings := options.apply settings
  settings.check.mapError .failure
  return ⟨settings, options.checkOnly, logging, filter⟩

/-- The part of the program whose events these are. -/
def target : String := "snapshot_sender"

/-- The event at the start of a run. -/
def opening (settings : Settings) : Log.Entry :=
  ⟨target, .info, "Starting snapshot sender",
    [("correlation_id", .string settings.run.correlationId),
      ("topic", .string settings.run.topicName),
      ("export_date", .string settings.run.exportDate),
      ("snapshot_type", .string settings.run.snapshotType),
      ("prefix", .string settings.storage.folder)]⟩

/-- The event of a launch that only checks. -/
def checked : Log.Entry := ⟨target, .info, "Configuration is valid", []⟩

/-- The event at the end of a run. -/
def closing : Except Failure Summary → Log.Entry
  | .ok summary =>
    ⟨target, .info, "Snapshot sender completed",
      [("listed", .number (toString summary.listed)),
        ("skipped", .number (toString summary.skipped)),
        ("delivered", .number (toString summary.delivered)),
        ("rejected", .number (toString summary.rejected))]⟩
  | .error failure =>
    ⟨target, .error, "Snapshot sender failed", [("error", .string failure.message)]⟩

/-- What a launch leaves behind. -/
structure Report where
  exitCode : UInt32
  error : Option String
  entries : List Log.Entry

namespace Obstacle

/-- The reason in words; a refused command line has an answer of its own. -/
def text? : Obstacle → Option String
  | commandLine _ => none
  | envFile path => some s!"Failed to load env file {path}"
  | failure f => some f.message

/-- The exit code. Showing the help or the version is no failure. -/
def exitCode : Obstacle → UInt32
  | commandLine .help => 0
  | commandLine .version => 0
  | commandLine _ => 2
  | _ => 1

/-- The report of a launch that ends so. -/
def report (obstacle : Obstacle) : Report := ⟨obstacle.exitCode, obstacle.text?, []⟩

end Obstacle

namespace Ready

def written (ready : Ready) (entries : List Log.Entry) : List Log.Entry :=
  entries.filter fun entry => ready.filter.writes entry.event

def checkReport (ready : Ready) : Report :=
  ⟨0, none, ready.written [opening ready.settings, checked]⟩

/-- The report of a run with the given result, if it has one. A run that needs a delay that has no
    value breaks down. -/
def runReport (ready : Ready) : Option (Except Failure Summary) → Report
  | none => ⟨101, none, ready.written [opening ready.settings]⟩
  | some result =>
    let entries := ready.written [opening ready.settings, closing result]
    match result with
    | .ok _ => ⟨0, none, entries⟩
    | .error failure => ⟨1, some failure.message, entries⟩

def procedure (ready : Ready) : Services.Procedure Summary :=
  Services.connect ready.settings (send ready.settings)

end Ready

/-- The report of a launch whose run has the given result. -/
def report (machine : Machine) (run : Ready → Option (Except Failure Summary)) : Report :=
  match prepare machine with
  | .error obstacle => obstacle.report
  | .ok ready => if ready.checkOnly then ready.checkReport else ready.runReport (run ready)

end Courier.Launch

import Courier.Launch
import Courier.Log.FileName
import Courier.Services.Offline
import Std.Time.DateTime.Timestamp

/-!
The sender as a program. It looks at its machine, launches the sender, and performs the steps of the
run one by one. It has no client for the services: each step is answered as on a machine without a
network, so a run ends with the failure to reach them.
-/

namespace Courier

/-- The wording of a failure of the operating system. -/
def systemReason : IO.Error → String
  | .noFileOrDirectory _ code details => s!"{details} (os error {code})"
  | .permissionDenied _ code details => s!"{details} (os error {code})"
  | .alreadyExists _ code details => s!"{details} (os error {code})"
  | .inappropriateType _ code details => s!"{details} (os error {code})"
  | .noSuchThing _ code details => s!"{details} (os error {code})"
  | .invalidArgument _ code details => s!"{details} (os error {code})"
  | other => toString other

def readContent (path : String) : IO (Option (List UInt8)) := do
  try
    let content ← IO.FS.readBinFile path
    return some content.toList
  catch _ => return none

/-- Cuts bytes at every zero. -/
def cutAtZero (content : List UInt8) : List (List UInt8) :=
  content.foldr (fun b pieces =>
    if b = 0 then [] :: pieces
    else match pieces with
      | piece :: rest => (b :: piece) :: rest
      | [] => [[b]]) [[]]

/-- The environment of this process, which the system shows as texts of a name, an equals sign and a
    value. -/
def processEnvironment : IO Environment := do
  let content ← readContent "/proc/self/environ"
  return (cutAtZero (content.getD [])).foldl (fun env entry =>
    match String.fromUTF8? ⟨(entry.takeWhile (· != 61)).toArray⟩ with
    | some name => env.set name ⟨((entry.dropWhile (· != 61)).drop 1).toArray⟩
    | none => env) Environment.empty

/-- Looks at the machine: reads the file of variables and makes the folder for log files. -/
def lookAround (arguments : List String) : IO Launch.Machine := do
  let environment ← processEnvironment
  let named := (CommandLine.read environment arguments).toOption.map Launch.envFileOf
  let path := named.getD Launch.usualEnvFile
  let content ← readContent path
  let machine : Launch.Machine := ⟨arguments, environment, fun _ => content, fun _ => .ok ()⟩
  match Launch.logFolder? machine with
  | none => return machine
  | some folder =>
    try
      IO.FS.createDirAll folder
      return machine
    catch e =>
      return { machine with makeFolder := fun _ => .error (systemReason e) }

def today : IO Log.Date := do
  let now ← Std.Time.Timestamp.now
  return .ofDays (now.toSecondsSinceUnixEpoch.val.toNat / 86400)

def writeEntry (ready : Launch.Ready) (entry : Log.Entry) : IO Unit := do
  if ready.filter.writes entry.event then
    let line := entry.line ready.logging
    if ready.logging.output.toConsole then
      IO.println line
    if ready.logging.output.toFile then
      let file ← IO.FS.Handle.mk (ready.logging.filePath (← today)) .append
      file.putStrLn line

/-- Performs the steps of a program, waiting as long as it waits. -/
def perform {α : Type} : Program Services.Step.Answer α → Services.Offline → IO (Option α)
  | .done value, _ => return some value
  | .ask step next, state => perform (next (state.answer step)) (state.after step)
  | .wait nanos next, state => do
    IO.sleep (UInt32.ofNat (min (nanos / 1000000) (2 ^ 32 - 1)))
    perform next state
  | .halt, _ => return none

/-- What is shown to whoever asks for help. -/
def helpText : String :=
  "Usage: snapshot-sender [OPTIONS]\n\n" ++
  String.intercalate "\n" (CommandLine.names.map (fun entry => "  --" ++ entry.1 ++ " <VALUE>")
    ++ CommandLine.switches.map (fun entry => "  --" ++ entry.1))

/-- Ends a launch before the sender runs. -/
def giveUp (obstacle : Launch.Obstacle) : IO UInt32 := do
  match obstacle with
  | .commandLine .help => IO.println helpText
  | .commandLine .version => IO.println "snapshot-sender"
  | .commandLine _ => IO.eprintln helpText
  | _ => IO.eprintln ("Error: " ++ obstacle.text?.getD "")
  return obstacle.exitCode

def runReady (ready : Launch.Ready) : IO UInt32 := do
  writeEntry ready (Launch.opening ready.settings)
  if ready.checkOnly then
    writeEntry ready Launch.checked
    return ready.checkReport.exitCode
  let result ← perform ready.procedure.run .start
  if let some result := result then
    writeEntry ready (Launch.closing result)
  let report := ready.runReport result
  if let some text := report.error then
    IO.eprintln ("Error: " ++ text)
  return report.exitCode

end Courier

def main (arguments : List String) : IO UInt32 := do
  match Courier.Launch.prepare (← Courier.lookAround arguments) with
  | .error obstacle => Courier.giveUp obstacle
  | .ok ready => Courier.runReady ready

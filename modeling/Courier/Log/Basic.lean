import Courier.Settings.Environment

/-!
The settings of the program's own log: how much is written, where and in which form, and the words
that choose them. The words are read in any letter case.
-/

namespace Courier.Log

/-- How important an event is, from the least on. -/
inductive Level where
  | trace
  | debug
  | info
  | warn
  | error
  deriving DecidableEq, Repr

inductive Output where
  | console
  | file
  | both
  deriving DecidableEq, Repr

inductive Format where
  | text
  | json
  deriving DecidableEq, Repr

namespace Level

/-- All levels, from the least important on. -/
def all : List Level := [trace, debug, info, warn, error]

def word : Level → String
  | trace => "trace"
  | debug => "debug"
  | info => "info"
  | warn => "warn"
  | error => "error"

/-- How important a level is. -/
def rank : Level → Nat
  | trace => 0
  | debug => 1
  | info => 2
  | warn => 3
  | error => 4

def read (text : String) : Except Failure Level :=
  match Text.lower text with
  | "trace" => .ok trace
  | "debug" => .ok debug
  | "info" => .ok info
  | "warn" | "warning" => .ok warn
  | "error" => .ok error
  | _ => .error (.badValue "log level" text)

end Level

namespace Output

def word : Output → String
  | console => "console"
  | file => "file"
  | both => "both"

def read (text : String) : Except Failure Output :=
  match Text.lower text with
  | "console" | "stdout" => .ok console
  | "file" => .ok file
  | "both" | "all" => .ok both
  | _ => .error (.badValue "log output" text)

def toConsole (output : Output) : Bool := output != file

def toFile (output : Output) : Bool := output != console

end Output

namespace Format

def word : Format → String
  | text => "text"
  | json => "json"

def read (text : String) : Except Failure Format :=
  match Text.lower text with
  | "text" | "pretty" => .ok .text
  | "json" => .ok json
  | _ => .error (.badValue "log format" text)

end Format

structure Config where
  level : Level
  output : Output
  format : Format
  folder : String
  /-- The start of the names of log files. -/
  fileStem : String
  /-- What is heard from single parts of the program, as comma-separated directives. -/
  filter : Option String
  showLocation : Bool
  showThread : Bool
  showTarget : Bool
  deriving DecidableEq, Repr

namespace Config

/-- Information to the console, and little of the libraries underneath. -/
def standard : Config where
  level := .info
  output := .console
  format := .json
  folder := "./logs"
  fileStem := "snapshot-sender"
  filter := some "aws_config=warn,aws_smithy_runtime=warn,hyper=info"
  showLocation := false
  showThread := true
  showTarget := true

/-- The settings with what the environment says in their place. -/
def overlay (config : Config) (env : Environment) : Except Failure Config := do
  return { config with
    level := ← match env.text? "LOG_LEVEL" with
      | some word => Level.read word
      | none => .ok config.level
    output := ← match env.text? "LOG_OUTPUT" with
      | some word => Output.read word
      | none => .ok config.output
    format := ← match env.text? "LOG_FORMAT" with
      | some word => Format.read word
      | none => .ok config.format
    folder := env.textOr "LOG_DIR" config.folder
    fileStem := env.textOr "LOG_FILE_PREFIX" config.fileStem
    filter := (env.text? "LOG_FILTER").or config.filter
    showLocation := ← env.flagOr "LOG_INCLUDE_LOCATION" config.showLocation
    showThread := ← env.flagOr "LOG_INCLUDE_THREAD_IDS" config.showThread
    showTarget := ← env.flagOr "LOG_INCLUDE_TARGETS" config.showTarget }

end Config

end Courier.Log

import FuturesDesk.Config.Basic
import FuturesDesk.Service.CommandLine
import FuturesDesk.Service.Filter
import FuturesDesk.Service.Listen

/-!
# Startup

From the arguments to a listening service, or to the causes why there is none.
-/

namespace FuturesDesk.Service

/-- What is found at the path of a configuration. -/
inductive Source where
  | file (bytes : ByteArray)
  | directory
  | absent

inductive Failure where
  | load (path cause : String)
  | bind (address : String) (p : BindProblem)

def Failure.causes : Failure → List String
  | .load path cause => ["failed to load " ++ path, cause]
  | .bind address p => ["failed to bind " ++ address, p.message]

namespace Source

def read (path : String) (s : Source) : Except Failure Config :=
  match s with
  | .absent => .error (.load path "No such file or directory (os error 2)")
  | .directory => .error (.load path "Is a directory (os error 21)")
  | .file bytes => (Config.load (some bytes)).mapError fun
    | .unreadable => .load path "stream did not contain valid UTF-8"
    | .json p => .load path p.message
    | .fault f => .load path f.message

end Source

def logTarget : String := "ft_runner"

/-- The name of log files where the configuration has none. -/
def defaultModuleName : String := "ft-runner"

/-- A file that is logged to: its directory and the beginning of its name. -/
structure LogFile where
  dir : String
  name : String

/-- A desk that has been configured. -/
structure Desk where
  options : Options
  config : Config

namespace Desk

def logFile? (d : Desk) : Option LogFile :=
  (d.options.logDir.or d.config.about.logPath).map fun dir =>
    ⟨dir, d.config.about.moduleName.getD defaultModuleName⟩

def logs (d : Desk) : Bool := lets d.options.logLevel logTarget .info

def startingLine (d : Desk) : String :=
  "ft-runner starting: config=" ++ d.options.config ++ ", instrument=" ++ d.config.trade.instrumentCode ++
    ", listen=" ++ d.config.server.listenAddr

def closingLines : List String := ["shutdown signal received", "ft-runner stopped"]

end Desk

/-- What a run of the program shows. -/
structure Report where
  code : Nat
  listened : Bool := false
  log : List String := []
  causes : List String := []
  logFile : Option LogFile := none

/-- The code of calls that cannot be understood. -/
def misuseCode : Nat := 2

def report (invocation : Invocation) (source : String → Source) : Report :=
  match invocation with
  | .help => { code := 0 }
  | .misuse => { code := misuseCode }
  | .run options =>
    match (source options.config).read options.config with
    | .error failure => { code := 1, causes := failure.causes }
    | .ok config =>
      let desk : Desk := ⟨options, config⟩
      let starting := if desk.logs then [desk.startingLine] else []
      match bind config.server.listenAddr with
      | .error p =>
        { code := 1, log := starting, logFile := desk.logFile?,
          causes := (Failure.bind config.server.listenAddr p).causes }
      | .ok () =>
        { code := 0, listened := true, logFile := desk.logFile?,
          log := starting ++ (if desk.logs then Desk.closingLines else []) }

end FuturesDesk.Service

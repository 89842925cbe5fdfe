/-!
# Command line

The arguments of the program: the path of a configuration, and how to log.
-/

namespace FuturesDesk.Service

structure Options where
  config : String
  /-- Which lines to log; see `Filter`. -/
  logLevel : String := "info"
  /-- Where to keep log files, before what the configuration says. -/
  logDir : Option String := none
  jsonLogs : Bool := false

inductive Invocation where
  | run (o : Options)
  | help
  | misuse

/-- The arguments read so far. -/
structure Reading where
  config : Option String := none
  logLevel : Option String := none
  logDir : Option String := none
  jsonLogs : Bool := false

/-- An option with a value. -/
inductive Setting where
  | logLevel | logDir

inductive Flag where
  | help | jsonLogs

/-- What an argument says by itself. -/
inductive Argument where
  | positional (s : String)
  /-- A setting, with its value if that is part of the argument. -/
  | setting (s : Setting) (value : Option String)
  | flag (f : Flag)
  /-- From here on all arguments are positional. -/
  | separator
  | unknown

namespace Reading

def set (r : Reading) (s : Setting) (value : String) : Option Reading :=
  match s with
  | .logLevel => if r.logLevel.isNone then some { r with logLevel := some value } else none
  | .logDir => if r.logDir.isNone then some { r with logDir := some value } else none

/-- The path is given once and not empty. -/
def position (r : Reading) (s : String) : Option Reading :=
  if r.config.isNone && !s.isEmpty then some { r with config := some s } else none

def options? (r : Reading) : Option Options := do
  let config ← r.config
  return { config, logLevel := r.logLevel.getD "info", logDir := r.logDir, jsonLogs := r.jsonLogs }

end Reading

/-- A long option: its name, and the value behind an equals sign. -/
def longOption (cs : List Char) : Argument :=
  let name := String.ofList (cs.takeWhile (· ≠ '='))
  let value := match cs.dropWhile (· ≠ '=') with
    | _ :: v => some (String.ofList v)
    | [] => none
  match name, value with
  | "log-level", v => .setting .logLevel v
  | "log-dir", v => .setting .logDir v
  | "json-logs", none => .flag .jsonLogs
  | "help", none => .flag .help
  | _, _ => .unknown

/-- Short options: a value may follow its letter, with or without an equals
sign. -/
def shortOption : List Char → Argument
  | 'h' :: _ => .flag .help
  | ['l'] => .setting .logLevel none
  | 'l' :: '=' :: v => .setting .logLevel (some (String.ofList v))
  | 'l' :: v => .setting .logLevel (some (String.ofList v))
  | _ => .unknown

def Argument.ofText (s : String) : Argument :=
  match s.toList with
  | ['-', '-'] => .separator
  | '-' :: '-' :: cs => longOption cs
  | '-' :: c :: cs => shortOption (c :: cs)
  | _ => .positional s

/-- Whether a text may be the value of the option in front of it. -/
def isValue (s : String) : Bool :=
  match s.toList with
  | '-' :: _ :: _ => false
  | _ => true

/-- Arguments behind the separator. -/
def readPositional (r : Reading) : List String → Invocation
  | [] =>
    match r.options? with
    | some o => .run o
    | none => .misuse
  | a :: as =>
    match r.position a with
    | some r => readPositional r as
    | none => .misuse

/-- Arguments from left to right; the first that does not fit decides. -/
def readArguments (r : Reading) : List String → Invocation
  | [] => readPositional r []
  | a :: as =>
    match Argument.ofText a with
    | .separator => readPositional r as
    | .positional s =>
      match r.position s with
      | some r => readArguments r as
      | none => .misuse
    | .flag .help => .help
    | .flag .jsonLogs => if r.jsonLogs then .misuse else readArguments { r with jsonLogs := true } as
    | .setting s (some v) =>
      match r.set s v with
      | some r => readArguments r as
      | none => .misuse
    | .setting s none =>
      match as with
      | [] => .misuse
      | v :: as =>
        if isValue v then
          match r.set s v with
          | some r => readArguments r as
          | none => .misuse
        else .misuse
    | .unknown => .misuse

def Invocation.ofArgs (args : List String) : Invocation := readArguments {} args

/-- How to call the program. -/
def usage : String :=
  "Futures order execution and assist-trading server\n\n" ++
  "Usage: ft-runner [OPTIONS] <CONFIG>\n\n" ++
  "Arguments:\n  <CONFIG>  Configuration file path (JSON)\n\n" ++
  "Options:\n" ++
  "  -l, --log-level <LOG_LEVEL>  Log level (trace, debug, info, warn, error) [default: info]\n" ++
  "      --log-dir <LOG_DIR>      Optional log directory for file output. Overrides `meta.log_path`\n" ++
  "      --json-logs              Emit console logs as JSON\n" ++
  "  -h, --help                   Print help\n"

end FuturesDesk.Service

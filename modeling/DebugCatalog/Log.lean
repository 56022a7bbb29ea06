import DebugCatalog.Text.Lowercase

/-!
# Logging options

How loud the program is and in which form it speaks.  Both may be given as a
flag or in the environment, in upper or lower case, and a flag wins.
-/

namespace DebugCatalog

inductive LogLevel where
  | error
  | warn
  | info
  | debug
  | trace
  deriving DecidableEq, Repr

namespace LogLevel

def name : LogLevel → String
  | .error => "error"
  | .warn => "warn"
  | .info => "info"
  | .debug => "debug"
  | .trace => "trace"

def ofName? : String → Option LogLevel
  | "error" | "err" => some .error
  | "warn" | "warning" => some .warn
  | "info" => some .info
  | "debug" | "dbg" => some .debug
  | "trace" => some .trace
  | _ => none

def parse (s : String) : Except String LogLevel :=
  match ofName? (Text.lowercase s) with
  | some level => .ok level
  | none => .error ("Unknown log level: " ++ s ++
      ". Use 'error', 'warn', 'info', 'debug', or 'trace'")

end LogLevel

inductive LogFormat where
  | pretty
  | json
  deriving DecidableEq, Repr

namespace LogFormat

def ofName? : String → Option LogFormat
  | "pretty" | "text" => some .pretty
  | "json" => some .json
  | _ => none

def parse (s : String) : Except String LogFormat :=
  match ofName? (Text.lowercase s) with
  | some format => .ok format
  | none => .error ("Unknown log format: " ++ s ++ ". Use 'pretty' or 'json'")

/-- The format of a flag, else of the environment, else the pretty one. -/
def resolve (flag environment : Option String) : Except String LogFormat :=
  match flag with
  | some s => parse s
  | none =>
    match environment with
    | some s => parse s
    | none => .ok .pretty

end LogFormat

namespace LogFilter

/-- The levels a filter may consist of, by name or number. -/
def ofDirective? : String → Option String
  | "off" | "0" => some "off"
  | "error" | "1" => some "error"
  | "warn" | "2" => some "warn"
  | "info" | "3" => some "info"
  | "debug" | "4" => some "debug"
  | "trace" | "5" => some "trace"
  | _ => none

/-- The filter when no flag is given: what the environment says, else warnings. -/
def ofEnvironment (directive : Option String) : String :=
  (directive.bind fun d => ofDirective? (Text.lowercase d)).getD "warn"

end LogFilter

end DebugCatalog

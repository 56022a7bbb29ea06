import DebugCatalog.Command.Arguments

/-!
# Commands

The commands of the program and how they are written on its command line.  Two
options about logging may stand in front of the command or behind it; the ones
behind it win.
-/

namespace DebugCatalog

open Arguments (OptionRule Given Stop)

/-- The forms a report may have. -/
inductive ReportFormat where
  | json
  | yaml
  deriving DecidableEq, Repr

def ReportFormat.name : ReportFormat → String
  | .json => "json"
  | .yaml => "yaml"

def ReportFormat.ofName? : String → Option ReportFormat
  | "json" => some .json
  | "yaml" => some .yaml
  | _ => none

/-- How a binary is to be parsed. -/
structure ParseOptions where
  root : String
  binary : String
  name : Option String
  parsers : List String
  /-- Whether the results go into the project. -/
  persist : Bool
  report : Option ReportFormat
  json : Bool
  deriving DecidableEq

inductive Command where
  | parsers (binary : Option String) (json : Bool)
  | viewInfo (binary : String) (json : Bool)
  | initProject (root : String) (name : Option String)
  | projectInfo (root : String) (json : Bool)
  | parse (options : ParseOptions)
  | functions (root binary : String) (parser : Option String) (json : Bool)
  | types (root binary : String) (parser : Option String) (json : Bool)
  | runs (root : String) (binary : Option String) (json : Bool)
  deriving DecidableEq

/-- A command line that can be followed. -/
structure Invocation where
  logLevel : Option String
  logFormat : Option String
  command : Command
  deriving DecidableEq

namespace Command

/-- The names of commands. -/
inductive Verb where
  | parsers
  | viewInfo
  | initProject
  | projectInfo
  | parse
  | functions
  | types
  | runs
  deriving DecidableEq, Repr

namespace Verb

def all : List Verb :=
  [.parsers, .viewInfo, .initProject, .projectInfo, .parse, .functions, .types, .runs]

def name : Verb → String
  | .parsers => "parsers"
  | .viewInfo => "view-info"
  | .initProject => "init-project"
  | .projectInfo => "project-info"
  | .parse => "parse"
  | .functions => "functions"
  | .types => "types"
  | .runs => "runs"

/-! ## Options -/

def root : OptionRule := { name := "root", arity := .once }

def binary : OptionRule := { name := "binary", arity := .once }

def needed (rule : OptionRule) : OptionRule := { rule with required := true }

def nameOption : OptionRule := { name := "name", arity := .once }

def parserOption (arity : Arguments.Arity) : OptionRule := { name := "parser", arity }

def json : OptionRule := { name := "json", arity := .flag }

def noPersist : OptionRule := { name := "no-persist", arity := .flag }

def report : OptionRule :=
  { name := "report", arity := .choice ([ReportFormat.json, .yaml].map ReportFormat.name) "json" }

def options : Verb → List OptionRule
  | .parsers => [binary, json]
  | .viewInfo => [needed binary, json]
  | .initProject => [root, nameOption]
  | .projectInfo => [root, json]
  | .parse => [root, needed binary, nameOption, parserOption .repeated, noPersist, report, json]
  | .functions => [root, needed binary, parserOption .once, json]
  | .types => [root, needed binary, parserOption .once, json]
  | .runs => [root, binary, json]

/-- The root of a project that was not given is the current directory. -/
def rootOf (g : Given) : String :=
  (g.value? "root").getD "."

/-- The command of a verb with the given options. -/
def command (v : Verb) (g : Given) : Command :=
  let root := rootOf g
  let binary := g.value? "binary"
  let parser := g.value? "parser"
  let json := g.has "json"
  match v with
  | .parsers => .parsers binary json
  | .viewInfo => .viewInfo (binary.getD "") json
  | .initProject => .initProject root (g.value? "name")
  | .projectInfo => .projectInfo root json
  | .parse => .parse {
      root
      binary := binary.getD ""
      name := g.value? "name"
      parsers := g.values "parser"
      persist := !g.has "no-persist"
      report := (g.value? "report").bind ReportFormat.ofName?
      json }
  | .functions => .functions root (binary.getD "") parser json
  | .types => .types root (binary.getD "") parser json
  | .runs => .runs root binary json

end Verb

end Command

namespace Invocation

open Command (Verb)

def logLevelRule : OptionRule := { name := "log-level", arity := .once }

def logFormatRule : OptionRule := { name := "log-format", arity := .once }

/-- The options that may stand anywhere. -/
def logOptions : List OptionRule := [logLevelRule, logFormatRule]

def level : Arguments.Level where
  options := logOptions
  commands := Verb.all.map Verb.name
  tellsVersion := true

/-- Reads a command line.  The options behind the command are looked at before
the last one in front of it is settled. -/
def parse (arguments : List String) : Except Stop Invocation := do
  match ← level.scan {} arguments with
  | (s, none) =>
    let s ← s.settle
    .error (if s.given.isEmpty then .nothingAsked else .missingCommand)
  | (s, some (name, rest)) =>
    match Verb.all.find? fun v => v.name == name with
    | none => .error .unknownCommand
    | some verb =>
      let behind ← Arguments.behindCommand (verb.options ++ logOptions) rest
      let inFront := (← s.settle).given
      let log (rule : OptionRule) := (behind.value? rule.name).or (inFront.value? rule.name)
      .ok {
        logLevel := log logLevelRule
        logFormat := log logFormatRule
        command := verb.command behind }

/-- The number a program ends with that does not follow its command line.
Asking for help or the version is no mistake. -/
def exitCode : Stop → Nat
  | .help | .version => 0
  | _ => 2

end Invocation

end DebugCatalog

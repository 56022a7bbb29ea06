import DebugCatalog.Collector.Listing
import DebugCatalog.Command.Basic
import DebugCatalog.Project.Open
import DebugCatalog.Yaml.Writer

/-!
# What commands print

Results of commands as JSON values and as lines of text.
-/

namespace DebugCatalog

/-- Lines, each with its end. -/
def unlines (lines : List String) : String :=
  String.join (lines.map fun line => line ++ "\n")

/-- A JSON value on lines of its own. -/
def Json.printed (v : Json) : String :=
  unlines [v.indented]

/-- What there is under a heading, or that there is nothing. -/
def listing (heading : String) (lines : List String) : String :=
  if lines.isEmpty then unlines [heading ++ ": (none)"] else unlines ((heading ++ ":") :: lines)

/-! ## Parsers -/

/-- A parser, and whether it accepts the image that was asked about. -/
structure ParserRow where
  name : String
  accepts : Option Bool
  deriving DecidableEq

namespace ParserRow

def of (v : Option Image) (p : Parser) : ParserRow where
  name := p.name
  accepts := v.map p.accepts

def toJson (r : ParserRow) : Json :=
  .object (("name", .string r.name) :: r.accepts.toList.map fun b => ("valid", .boolean b))

def line (r : ParserRow) : String :=
  "- " ++ r.name ++ match r.accepts with
    | some true => " (valid)"
    | some false => " (not valid for this binary)"
    | none => ""

end ParserRow

/-! ## Images -/

namespace Image

def sectionLine (s : Section) : String :=
  "    - " ++ s.name ++ " @ " ++ formatAddress s.start ++ " (" ++ toString s.size ++ " bytes)"

def sectionJson (s : Section) : Json :=
  .object [("name", .string s.name), ("start", .natural s.start), ("size", .natural s.size)]

/-- What is said about an image. -/
def describe (v : Image) : String :=
  unlines ([
    "Binary: " ++ v.name,
    "  Format: " ++ v.format.name,
    "  Arch: " ++ v.arch.getD "unknown",
    "  64-bit: " ++ (if v.is64Bit then "true" else "false"),
    "  Entry: " ++ (match v.entryPoint with
      | some entry => formatAddress entry
      | none => "(none)"),
    "  Size: " ++ toString v.size ++ " bytes",
    "  SHA-256: " ++ v.sha256,
    "  Function symbols: " ++ toString v.functionSymbols.length,
    "  Data symbols: " ++ toString v.dataSymbols.length] ++
    if v.sections.isEmpty then ["  Sections: (none)"]
    else "  Sections:" :: v.sections.map sectionLine)

def toJson (v : Image) : Json :=
  .object [
    ("name", .string v.name),
    ("format", .string v.format.name),
    ("arch", .optional v.arch),
    ("is_64bit", .boolean v.is64Bit),
    ("entry_point", (v.entryPoint.map Json.natural).getD .null),
    ("image_base", .natural v.imageBase),
    ("size", .count v.size),
    ("sha256", .string v.sha256),
    ("sections", .array (v.sections.map sectionJson)),
    ("function_symbols", .count v.functionSymbols.length),
    ("data_symbols", .count v.dataSymbols.length)]

end Image

/-! ## Projects -/

/-- A project as it is shown. -/
structure ProjectFacts where
  layout : Layout
  config : Config
  databasePath : String
  schemaVersion : Int
  /-- The parsers there are. -/
  parsers : List String
  binaries : List BinaryRecord
  runCount : Nat
  hasMetaDir : Bool
  hasReportsDir : Bool

namespace ProjectFacts

def directoryLine (label : String) (there : Bool) (path : String) : String :=
  "- " ++ label ++ ": " ++ (if there then "OK" else "MISSING") ++ " (" ++ path ++ ")"

def binaryLine (b : BinaryRecord) : String :=
  "- " ++ b.name ++ " (" ++ b.format.getD "unknown" ++ ", " ++ b.path ++ ")"

def describe (p : ProjectFacts) : String :=
  unlines (
    ["Project: " ++ p.config.name] ++
    p.config.description.toList.map (fun d => "  Description: " ++ d) ++
    ["  Root: " ++ p.layout.root,
      "  Config version: " ++ p.config.version,
      "  DB: " ++ p.databasePath ++ " (schema v" ++ toString p.schemaVersion ++ ")",
      "  Default parsers: " ++ (if p.config.defaultParsers.isEmpty then "(all valid)"
        else ", ".intercalate p.config.defaultParsers),
      "  Available parsers: " ++ ", ".intercalate p.parsers,
      "Layout:",
      directoryLine "Meta" p.hasMetaDir p.layout.metaDir,
      directoryLine "Reports" p.hasReportsDir p.layout.reportsDir,
      "Binaries: " ++ toString p.binaries.length] ++
    p.binaries.map binaryLine ++
    ["Parse runs: " ++ toString p.runCount])

def toJson (p : ProjectFacts) : Json :=
  .object [
    ("name", .string p.config.name),
    ("root", .string p.layout.root),
    ("config_file", .string p.layout.configPath),
    ("config_version", .string p.config.version),
    ("db_path", .string p.config.databasePath),
    ("schema_version", .integer p.schemaVersion),
    ("default_parsers", .array (p.config.defaultParsers.map .string)),
    ("available_parsers", .array (p.parsers.map .string)),
    ("reports_dir", .string p.layout.reportsDir),
    ("binaries", .array (p.binaries.map BinaryRecord.toJson)),
    ("parse_runs", .count p.runCount)]

end ProjectFacts

/-- What is said about a new project. -/
def describeNewProject (l : Layout) (c : Config) : String :=
  unlines [
    "Initialized debug-info project:",
    "  Name: " ++ c.name,
    "  Root: " ++ l.root,
    "  Config: " ++ l.configPath,
    "  DB path (relative): " ++ c.databasePath,
    "  Reports dir: " ++ l.reportsDir]

/-! ## Ingests -/

/-- A report on an ingest. -/
def ReportFormat.render (format : ReportFormat) (s : Ingest.Summary) : String :=
  match format with
  | .json => s.toJson.indented
  | .yaml => s.toJson.toYaml

def Outcome.line (o : Outcome) : String :=
  match o.error with
  | none =>
    "- " ++ o.parser ++ ": " ++ toString o.typesFound ++ " types, " ++ toString o.functionsFound ++
      " functions (" ++ toString o.typesAdded ++ " types, " ++ toString o.functionsAdded ++
      " functions new)"
  | some message =>
    "- " ++ o.parser ++ ": FAILED (" ++ message ++ "); kept " ++ toString o.typesAdded ++
      " types, " ++ toString o.functionsAdded ++ " functions"

/-- What is said about an ingest, and where its report is. -/
def Ingest.Summary.describe (s : Ingest.Summary) (report : Option String) : String :=
  unlines (
    ["Parsed " ++ s.binary.name ++ ":"] ++
    s.outcomes.map Outcome.line ++
    ["Total: " ++ toString s.collector.typeCount ++ " types, " ++
      toString s.collector.functionCount ++ " functions",
      if s.runs.isEmpty then "Results not persisted."
      else "Recorded " ++ toString s.runs.length ++ " parse run(s)."] ++
    report.toList.map fun path => "Report: " ++ path)

/-! ## What a project knows -/

def credit (parser : Option String) : String :=
  " [" ++ parser.getD "?" ++ "]"

def FunctionRow.line (r : FunctionRow) : String :=
  "- " ++ formatAddress r.address ++ " " ++ r.fullName ++ credit r.parser

def TypeRow.line (r : TypeRow) : String :=
  "- " ++ r.name ++ " = " ++ r.definition ++ credit r.parser

def RunRecord.line (r : RunRecord) : String :=
  "- " ++ r.binary ++ " / " ++ r.parser ++ ": " ++ r.status.name ++ " (" ++ toString r.typesAdded ++
    " types, " ++ toString r.functionsAdded ++ " functions) at " ++ r.finishedAt ++
    ((r.message.map fun m => " [" ++ m ++ "]").getD "")

end DebugCatalog

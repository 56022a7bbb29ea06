import DebugCatalog.Command.Output
import DebugCatalog.Log
import DebugCatalog.Parser.Symbols

/-!
# Running commands

Each command gives the text it prints, or fails and prints nothing.  Commands
work on any host, with the parsers of a registry.

`parse` may leave a report in the reports directory of its project.  The report
is named after the binary, so the name of a binary has to be the name of a file:
`isFileName` turns away all others before anything is opened.
-/

namespace DebugCatalog.Command

variable {m : Type → Type} [Monad m] [Host m]

/-! ## Images -/

/-- An image for a command. -/
def imageAt (path : String) : ExceptT Failure m Image :=
  Failure.during ["Failed to open binary " ++ path] (.unreadable path) (openImage path)

def listParsers (r : Registry) (binary : Option String) (json : Bool) :
    ExceptT Failure m String := do
  let v ← match binary with
    | some path => some <$> imageAt path
    | none => pure none
  let rows := r.list.map (ParserRow.of v)
  return if json then (Json.array (rows.map ParserRow.toJson)).printed
    else listing "Parsers" (rows.map ParserRow.line)

def showImage (path : String) (json : Bool) : ExceptT Failure m String := do
  let v ← imageAt path
  return if json then v.toJson.printed else v.describe

/-! ## Projects -/

/-- Uses the project at a root, which may be given in any form.  The project is
closed in the end, also after a failure. -/
def withProject {α : Type} (root : String) (action : Project m → ExceptT Failure m α) :
    ExceptT Failure m α := do
  let p ← Project.load (← (Project.locate root : m String))
  ExceptT.mk do
    let result ← (action p).run
    p.close
    return result

def makeReportsDir (l : Layout) : ExceptT Failure m Unit :=
  Failure.during ["Failed to create reports dir: " ++ l.reportsDir] .file
    (Host.makeDirectories l.reportsDir)

def makeProject (root : String) (name : Option String) : ExceptT Failure m String := do
  let root ← (Project.locate root : m String)
  let l := Layout.of root
  let c := Config.new (name.getD (projectName root)) l.databasePathInProject
  makeReportsDir l
  Project.saveConfig l c
  let database ← Failure.during
    ["Failed to initialize project database at " ++ l.databasePath] .store
    (Project.openStore (m := m) l.databasePath)
  (Host.closeStore database : m Unit)
  return describeNewProject l c

def projectFacts (r : Registry) (p : Project m) : ExceptT Failure m ProjectFacts := do
  let ask {α : Type} (tasks : List String) (f : Store → Except StoreError α) :
      ExceptT Failure m α := Failure.during tasks .store (p.query f)
  let binaries ← ask ["Failed to list binaries"] Store.listBinaries
  let runs ← ask ["Failed to list parse runs"] fun s => s.listRuns none
  let schemaVersion ← ask ["Failed to read schema version"] fun s => .ok s.version
  let hasMetaDir ← (Host.isDirectory p.layout.metaDir : m Bool)
  let hasReportsDir ← (Host.isDirectory p.layout.reportsDir : m Bool)
  return {
    layout := p.layout
    config := p.config
    databasePath := p.databasePath
    schemaVersion
    parsers := r.names
    binaries
    runCount := runs.length
    hasMetaDir
    hasReportsDir }

def showProject (r : Registry) (root : String) (json : Bool) : ExceptT Failure m String := do
  let facts ← withProject root (projectFacts r)
  return if json then facts.toJson.printed else facts.describe

/-! ## Parsing -/

/-- A name of a file in a directory, and not a path to it. -/
def isFileName (name : String) : Bool :=
  name != "" && name != "." && name != ".." &&
    !name.toList.any fun c => c == '/' || c == '\\'

def checkName (name : String) : ExceptT Failure m Unit :=
  if isFileName name then pure ()
  else throw {
    tasks := []
    cause := .message ("Invalid binary name '" ++ name ++
      "': expected a plain file name without path separators") }

/-- Writes a report into the reports directory and says where it is. -/
def writeReport (l : Layout) (format : ReportFormat) (s : Ingest.Summary) :
    ExceptT Failure m String := do
  makeReportsDir l
  let path := l.reportPath s.binary.name format.name
  Failure.during ["Failed to write report " ++ path] .file
    (Host.write path (format.render s).toUTF8)
  return path

/-- Parses a binary into a project, if there is one, and writes the report if one
is wanted. -/
def parseInto (r : Registry) (o : ParseOptions) (project : Option (Project m)) :
    ExceptT Failure m (Ingest.Summary × Option String) := do
  let summary ← Failure.during ["Failed to parse debug info for " ++ o.binary] .ofIngest
    (Ingest.into project r { path := o.binary, name := o.name, parsers := o.parsers })
  match o.report with
  | none => return (summary, none)
  | some format =>
    let layout ← match project with
      | some p => pure p.layout
      | none => Layout.of <$> (Project.locate o.root : m String)
    return (summary, some (← writeReport layout format summary))

/-- Parses a binary, into the project if the results are to be kept. -/
def parseBinary (r : Registry) (o : ParseOptions) :
    ExceptT Failure m (Ingest.Summary × Option String) := do
  if let some name := o.name then checkName name
  if o.persist then withProject o.root fun p => parseInto r o (some p)
  else parseInto r o none

def showParse (r : Registry) (o : ParseOptions) : ExceptT Failure m String := do
  let (summary, report) ← parseBinary r o
  return if o.json then summary.toJson.printed else summary.describe report

/-! ## What a project knows -/

/-- What is known of a binary.  It must have been recorded. -/
def knowledge (binary : String) (parser : Option String) (p : Project m) :
    ExceptT Failure m Collector := do
  let known ← Failure.during [] .store (p.query (m := m) fun s => s.findBinary binary)
  if known.isNone then
    throw {
      tasks := []
      cause := .message ("Binary '" ++ binary ++ "' is not recorded in this project") }
  Failure.during ["Failed to load debug info for " ++ binary] .store
    (p.query fun s => s.loadBinary binary parser)

def showFunctions (root binary : String) (parser : Option String) (json : Bool) :
    ExceptT Failure m String := do
  let rows := (← withProject root (knowledge binary parser)).functionRows
  return if json then (Json.array (rows.map FunctionRow.toJson)).printed
    else listing "Functions" (rows.map FunctionRow.line)

def showTypes (root binary : String) (parser : Option String) (json : Bool) :
    ExceptT Failure m String := do
  let rows := (← withProject root (knowledge binary parser)).typeRows
  return if json then (Json.array (rows.map TypeRow.toJson)).printed
    else listing "Types" (rows.map TypeRow.line)

def showRuns (root : String) (binary : Option String) (json : Bool) :
    ExceptT Failure m String := do
  let runs ← withProject root fun p =>
    Failure.during ["Failed to list parse runs"] .store
      (p.query (m := m) fun s => s.listRuns binary)
  return if json then (Json.array (runs.map RunRecord.toJson)).printed
    else listing "Parse runs" (runs.map RunRecord.line)

/-! ## All of them -/

/-- What a command prints. -/
def run (r : Registry) : Command → ExceptT Failure m String
  | .parsers binary json => listParsers r binary json
  | .viewInfo binary json => showImage binary json
  | .initProject root name => makeProject root name
  | .projectInfo root json => showProject r root json
  | .parse options => showParse r options
  | .functions root binary parser json => showFunctions root binary parser json
  | .types root binary parser json => showTypes root binary parser json
  | .runs root binary json => showRuns root binary json

end DebugCatalog.Command

namespace DebugCatalog.Invocation

variable {m : Type → Type} [Monad m] [Host m]

/-- An option in words that has to make sense. -/
def meaning {α : Type} (result : Except String α) : ExceptT Failure m α :=
  Failure.during [] .message (pure result)

/-- What an invocation prints.  Its options about logging have to make sense,
the level before the format. -/
def run (r : Registry) (format : Option String) (i : Invocation) : ExceptT Failure m String := do
  if let some level := i.logLevel then
    let _ ← meaning (LogLevel.parse level)
  let _ ← meaning (LogFormat.resolve i.logFormat format)
  i.command.run r

end DebugCatalog.Invocation

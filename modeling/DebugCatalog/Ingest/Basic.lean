import DebugCatalog.FileError
import DebugCatalog.Parser.Run
import DebugCatalog.Store.Findings

/-!
# Ingests

An ingest runs parsers over one binary.  In a project it also notes the binary
and each run in the store, and `Ingest.run` gives the store back together with
the result, also when it fails half-way.  Without a store nothing is noted, and
what is found is the same.

Which parsers run is decided by `Ingest.select`.
-/

namespace DebugCatalog.Ingest

structure Request where
  /-- Where the binary is. -/
  path : String
  /-- The name to note it under.  Its own name if there is none. -/
  name : Option String
  /-- The parsers to run, in order.  If there are none, the project decides. -/
  parsers : List String

/-- What is at the path of a request. -/
inductive Subject where
  | missing
  | unreadable (cause : FileError)
  /-- An image, and the path to note for it. -/
  | image (v : Image) (path : String)

inductive Error where
  | missing (path : String)
  | unreadable (path : String) (cause : FileError)
  | noParsers (image : String)
  | parser (cause : Parser.Error)
  | store (cause : StoreError)

/-- What an ingest brought. -/
structure Summary where
  binary : BinaryRecord
  collector : Collector
  outcomes : List Outcome
  /-- The runs noted in the store, one for each parser. -/
  runs : List Int

def unreadableMessage (path : String) (cause : FileError) : String :=
  "Failed to read binary at " ++ path ++ ": " ++ cause.message

def Error.message : Error → String
  | .missing path => "Binary not found at " ++ path
  | .unreadable path cause => unreadableMessage path cause
  | .noParsers image => "No debug-info parser is valid for view '" ++ image ++ "'"
  | .parser cause => cause.message
  | .store cause => cause.message

def Summary.toJson (s : Summary) : Json :=
  .object ([("binary", s.binary.toJson), ("debug_info", s.collector.toJson),
    ("parsers", .array (s.outcomes.map Outcome.toJson))] ++
    if s.runs.isEmpty then [] else [("run_ids", .array (s.runs.map .integer))])

/-! ## Which parsers run -/

/-- A parser that was asked for must be there and accept the image. -/
def requested (r : Registry) (v : Image) (name : String) : Except Error Parser :=
  match r.parser name with
  | .error e => .error (.parser e)
  | .ok p => if p.accepts v then .ok p else .error (.parser (.notValid name v.name))

/-- The parsers a project runs when none were asked for.  They must be there,
and those that do not accept the image are left out. -/
def defaultParsers (r : Registry) (v : Image) (names : List String) : Except Error (List Parser) :=
  match names.mapM r.parser with
  | .error e => .error (.parser e)
  | .ok parsers => .ok (parsers.filter fun p => p.accepts v)

/-- The parsers that were asked for, else those of the project, else all that
accept the image.  There must be at least one. -/
def select (r : Registry) (defaults : List String) (v : Image) (names : List String) :
    Except Error (List Parser) := do
  let parsers ←
    if !names.isEmpty then names.mapM (requested r v)
    else if !defaults.isEmpty then defaultParsers r v defaults
    else pure (r.parsersFor v)
  if parsers.isEmpty then .error (.noParsers v.name) else .ok parsers

/-! ## Running them -/

/-- What changes during an ingest. -/
structure Journal where
  /-- The store of the project, if there is one. -/
  store : Option Store
  runs : List Int

/-- A step that may fail.  What was noted before stays noted. -/
abbrev Action := ExceptT Error (StateM Journal)

/-- Does something to the store, if there is one. -/
def inStore {α : Type} (absent : α) (f : Store → Except StoreError (Store × α)) : Action α := do
  match (← get).store with
  | none => pure absent
  | some s =>
    match f s with
    | .ok (s, a) =>
      modify fun j => { j with store := some s }
      pure a
    | .error e => throw (.store e)

/-- The record of a binary.  The one in the store goes before a new one. -/
def enter (b : BinaryRecord) : Action BinaryRecord :=
  inStore b fun s => do
    match ← s.findBinary b.name with
    | some known => .ok (s, known)
    | none =>
      let (s, _) ← s.insertBinary b
      .ok (s, b)

/-- The record of a run at the given time. -/
def runRecord (binary now : String) (f : Finding) : RunRecord where
  binary
  parser := f.parser.name
  status := if f.error.isSome then .failed else .succeeded
  typesAdded := UInt64.ofNat f.collector.typeCount
  functionsAdded := UInt64.ofNat f.collector.functionCount
  message := f.errorMessage
  startedAt := now
  finishedAt := now

/-- Notes a run and what it found. -/
def note (binary now : String) (f : Finding) : Action Unit := do
  let runs ← inStore [] fun s => do
    let (s, id) ← s.recordRun (runRecord binary now f) f.collector
    .ok (s, [id])
  modify fun j => { j with runs := j.runs ++ runs }

/-- The image of a request and the path to note for it. -/
def Subject.image? (path : String) : Subject → Except Error (Image × String)
  | .missing => .error (.missing path)
  | .unreadable cause => .error (.unreadable path cause)
  | .image v recorded => .ok (v, recorded)

/-- What an ingest needs to begin: an image, the path to note for it, and the
parsers that run. -/
def prepare (r : Registry) (defaults : List String) (subject : Subject) (request : Request) :
    Except Error (Image × String × List Parser) := do
  let (v, path) ← subject.image? request.path
  .ok (v, path, ← select r defaults v request.parsers)

def action (r : Registry) (defaults : List String) (now : String) (subject : Subject)
    (request : Request) : Action Summary := do
  let (v, path, parsers) ← MonadExcept.ofExcept (prepare r defaults subject request)
  let name := request.name.getD v.name
  let binary ← enter { BinaryRecord.ofImage v path with name }
  let (collector, outcomes) ← runParsersWith (note name now) parsers v
  return { binary, collector, outcomes, runs := (← get).runs }

/-- An ingest into a store, if there is one, and what becomes of the store. -/
def run (r : Registry) (defaults : List String) (now : String) (subject : Subject)
    (request : Request) (store : Option Store) : Except Error Summary × Option Store :=
  let (result, journal) := (action r defaults now subject request).run.run { store, runs := [] }
  (result, journal.store)

end DebugCatalog.Ingest

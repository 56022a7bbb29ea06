import DebugCatalog.Store.Record
import DebugCatalog.Store.Table
import DebugCatalog.Word

/-!
# Stores

A store is the contents of a project database: binaries, parser runs, and the
types, functions and parameters that runs found.  It also has the version of its
schema, and any of its tables may be missing.

`Store.migrate` brings a store to the current version, and refuses versions that
are too new.  Each step makes the tables of one version that are not there yet
and leaves those that are.
-/

namespace DebugCatalog

/-- A run as it is stored: the status as text, and counts as signed words. -/
structure StoredRun where
  binary : String
  parser : String
  status : String
  typesAdded : Int
  functionsAdded : Int
  message : Option String
  startedAt : String
  finishedAt : String
  deriving DecidableEq

structure StoredType where
  run : Int
  name : String
  definition : String
  deriving DecidableEq

/-- A function as it is stored, under its address as a signed word. -/
structure StoredFunction where
  run : Int
  address : Int
  shortName : String
  fullName : String
  rawName : String
  returnType : String
  deriving DecidableEq

structure StoredParameter where
  run : Int
  address : Int
  position : Int
  name : String
  definition : String
  deriving DecidableEq

structure Store where
  version : Int
  binaries : Option (Numbered BinaryRecord)
  runs : Option (Numbered StoredRun)
  types : Option (List StoredType)
  functions : Option (List StoredFunction)
  parameters : Option (List StoredParameter)
  deriving DecidableEq

inductive StoreTable where
  | binaries
  | runs
  | types
  | functions
  | parameters
  deriving DecidableEq

def StoreTable.name : StoreTable → String
  | .binaries => "binaries"
  | .runs => "parse_runs"
  | .types => "debug_types"
  | .functions => "debug_functions"
  | .parameters => "debug_parameters"

def StoreTable.all : List StoreTable :=
  [.binaries, .runs, .types, .functions, .parameters]

/-- Why the text in a column does not stand for a value. -/
inductive ColumnFault where
  | status (message : String)
  | json (fault : Json.Fault)

inductive StoreError where
  /-- The file holds no database. -/
  | noDatabase
  | cannotOpen
  | missingTable (table : StoreTable)
  | duplicateBinary
  | noMoreNumbers
  | column (index : Nat) (fault : ColumnFault)
  | unsupportedVersion (found : Int)
  | unknownRun (run : Int)

namespace Store

def minVersion : Int := 0

def currentVersion : Int := 3

end Store

def ColumnFault.message : ColumnFault → String
  | .status m => m
  | .json fault => fault.message

/-- What went wrong in the database itself, in words. -/
def StoreError.detail : StoreError → String
  | .noDatabase => "file is not a database"
  | .cannotOpen => "unable to open database file"
  | .missingTable table => "no such table: " ++ table.name
  | .duplicateBinary => "UNIQUE constraint failed: binaries.name"
  | .noMoreNumbers => "database or disk is full"
  | .column index fault => "column " ++ toString index ++ ": " ++ fault.message
  | .unsupportedVersion found =>
    "Unsupported schema version " ++ toString found ++ "; supported range is " ++
      toString Store.minVersion ++ "..=" ++ toString Store.currentVersion
  | .unknownRun run => "Unknown parse run id " ++ toString run

def StoreError.message (e : StoreError) : String :=
  match e with
  | .unsupportedVersion _ | .unknownRun _ => e.detail
  | _ => "SQLite error: " ++ e.detail

namespace Store

/-- A database without anything in it. -/
def blank : Store where
  version := 0
  binaries := none
  runs := none
  types := none
  functions := none
  parameters := none

/-! ## Versions -/

/-- Makes the tables of one version, where they are missing. -/
def upgrade (s : Store) : Int → Store
  | 1 => { s with binaries := some (s.binaries.getD .empty), version := 1 }
  | 2 => { s with runs := some (s.runs.getD .empty), version := 2 }
  | 3 =>
    { s with
      types := some (s.types.getD [])
      functions := some (s.functions.getD [])
      parameters := some (s.parameters.getD [])
      version := 3 }
  | _ => s

/-- Brings a store to the current version.  Only a store at version 0 gets the
first table. -/
def migrate (s : Store) : Except StoreError Store :=
  if currentVersion < s.version then .error (.unsupportedVersion s.version)
  else
    let s := if s.version = 0 then s.upgrade 1 else s
    let s := if s.version < 2 then s.upgrade 2 else s
    .ok (if s.version < 3 then s.upgrade 3 else s)

/-! ## Tables -/

def need {α : Type} (table : StoreTable) : Option α → Except StoreError α
  | some t => .ok t
  | none => .error (.missingTable table)

/-- A row more in a table whose rows have numbers, and its number. -/
def pushRow {α : Type} (t : Numbered α) (a : α) : Except StoreError (Numbered α × Int) :=
  if Numbered.maxNumber < t.next then .error .noMoreNumbers else .ok (t.push a, t.next)

/-! ## Binaries -/

def insertBinary (s : Store) (b : BinaryRecord) : Except StoreError (Store × Int) := do
  let t ← need .binaries s.binaries
  if t.contents.any fun r => r.name == b.name then .error .duplicateBinary
  else
    let (t, id) ← pushRow t b
    .ok ({ s with binaries := some t }, id)

def listBinaries (s : Store) : Except StoreError (List BinaryRecord) := do
  .ok (← need .binaries s.binaries).contents

def findBinary (s : Store) (name : String) : Except StoreError (Option BinaryRecord) := do
  .ok ((← need .binaries s.binaries).contents.find? fun r => r.name == name)

end Store

end DebugCatalog

import DebugCatalog.Paged.File
import DebugCatalog.Store.Basic

/-!
# Stores as files

A store is kept as a file of pages with five tables.  `Store.toBytes` writes one,
and `Store.ofBytes?` reads it, also when another program has written it.

A file counts how often it was changed.  `Store.changesTo` says how many changes
lead from one store to another.
-/

namespace DebugCatalog

open Paged (Value)

/-! ## Tables -/

namespace StoreTable

/-- The columns of a table and what holds for them, in the words of its statement. -/
def columns : StoreTable → List String
  | .binaries =>
    ["id     INTEGER PRIMARY KEY AUTOINCREMENT", "name   TEXT NOT NULL UNIQUE",
      "path   TEXT NOT NULL", "arch   TEXT", "format TEXT", "hash   TEXT"]
  | .runs =>
    ["id              INTEGER PRIMARY KEY AUTOINCREMENT", "binary          TEXT NOT NULL",
      "parser          TEXT NOT NULL", "status          TEXT NOT NULL",
      "types_added     INTEGER NOT NULL DEFAULT 0", "functions_added INTEGER NOT NULL DEFAULT 0",
      "message         TEXT", "started_at      TEXT NOT NULL", "finished_at     TEXT NOT NULL"]
  | .types =>
    ["run_id     INTEGER NOT NULL", "name       TEXT NOT NULL", "definition TEXT NOT NULL",
      "PRIMARY KEY(run_id, name)"]
  | .functions =>
    ["run_id      INTEGER NOT NULL", "address     INTEGER NOT NULL",
      "short_name  TEXT NOT NULL", "full_name   TEXT NOT NULL", "raw_name    TEXT NOT NULL",
      "return_type TEXT NOT NULL", "PRIMARY KEY(run_id, address)"]
  | .parameters =>
    ["run_id     INTEGER NOT NULL", "address    INTEGER NOT NULL", "idx        INTEGER NOT NULL",
      "name       TEXT NOT NULL", "definition TEXT NOT NULL", "PRIMARY KEY(run_id, address, idx)"]

/-- The columns in which two rows are not equal. -/
def unique : StoreTable → List Nat
  | .binaries => [1]
  | .runs => []
  | .types | .functions => [0, 1]
  | .parameters => [0, 1, 2]

/-- The statement that makes a table. -/
def statement (t : StoreTable) : String :=
  let indent := "\n" ++ String.ofList (List.replicate 16 ' ')
  "CREATE TABLE " ++ t.name ++ " (" ++ indent ++ ("," ++ indent).intercalate t.columns ++
    "\n" ++ String.ofList (List.replicate 12 ' ') ++ ")"

/-- A table that keeps the numbers of its rows. -/
def numbered {α : Type} (t : StoreTable) (row : α → List Value) (rows : Numbered α) :
    Paged.Table where
  name := t.name
  statement := t.statement
  rows := rows.rows.map fun (number, a) => (number, .null :: row a)
  unique := t.unique
  last := some rows.last

/-- A table of rows in the order of their writing. -/
def keyed {α : Type} (t : StoreTable) (row : α → List Value) (rows : List α) : Paged.Table where
  name := t.name
  statement := t.statement
  rows := rows.zipIdx.map fun (a, i) => (i + 1, row a)
  unique := t.unique
  last := none

end StoreTable

namespace Store

/-! ## Rows -/

def optional (s : Option String) : Value :=
  (s.map Value.text).getD .null

def optional? : Value → Option (Option String)
  | .null => some none
  | .text s => some (some s)
  | _ => none

def binaryRow (b : BinaryRecord) : List Value :=
  [.text b.name, .text b.path, optional b.arch, optional b.format, optional b.hash]

def binaryOf? : List Value → Option BinaryRecord
  | [_, .text name, .text path, arch, format, hash] => do
    some { name, path, arch := ← optional? arch, format := ← optional? format, hash := ← optional? hash }
  | _ => none

def runRow (r : StoredRun) : List Value :=
  [.text r.binary, .text r.parser, .text r.status, .integer r.typesAdded,
    .integer r.functionsAdded, optional r.message, .text r.startedAt, .text r.finishedAt]

def runOf? : List Value → Option StoredRun
  | [_, .text binary, .text parser, .text status, .integer typesAdded, .integer functionsAdded,
      message, .text startedAt, .text finishedAt] => do
    some {
      binary, parser, status, typesAdded, functionsAdded, startedAt, finishedAt
      message := ← optional? message }
  | _ => none

def typeRow (t : StoredType) : List Value :=
  [.integer t.run, .text t.name, .text t.definition]

def typeOf? : List Value → Option StoredType
  | [.integer run, .text name, .text definition] => some { run, name, definition }
  | _ => none

def functionRow (f : StoredFunction) : List Value :=
  [.integer f.run, .integer f.address, .text f.shortName, .text f.fullName, .text f.rawName,
    .text f.returnType]

def functionOf? : List Value → Option StoredFunction
  | [.integer run, .integer address, .text shortName, .text fullName, .text rawName,
      .text returnType] =>
    some { run, address, shortName, fullName, rawName, returnType }
  | _ => none

def parameterRow (p : StoredParameter) : List Value :=
  [.integer p.run, .integer p.address, .integer p.position, .text p.name, .text p.definition]

def parameterOf? : List Value → Option StoredParameter
  | [.integer run, .integer address, .integer position, .text name, .text definition] =>
    some { run, address, position, name, definition }
  | _ => none

/-! ## Writing -/

def toFile (s : Store) (changes : Nat) : Paged.File where
  version := s.version
  changes
  tables := [
    s.binaries.map (StoreTable.binaries.numbered binaryRow),
    s.runs.map (StoreTable.runs.numbered runRow),
    s.types.map (StoreTable.types.keyed typeRow),
    s.functions.map (StoreTable.functions.keyed functionRow),
    s.parameters.map (StoreTable.parameters.keyed parameterRow)].filterMap id

def toBytes (s : Store) (changes : Nat) : ByteArray :=
  (s.toFile changes).bytes

/-! ## Reading -/

/-- The records of a table, if it is there. -/
def keyedOf? {α : Type} (source : Paged.Source) (table : StoreTable)
    (record : List Value → Option α) : Option (Option (List α)) := do
  match ← source.table? table.name with
  | none => some none
  | some rows => some (some (← rows.mapM fun (_, row) => record row))

/-- The last number of a table. -/
def lastOf? (source : Paged.Source) (table : StoreTable) : Option Int := do
  let counters ← source.table? Paged.counterName
  some (((counters.getD []).findSome? fun (_, row) =>
    match row with
    | [.text name, .integer last] => if name == table.name then some last else none
    | _ => none).getD 0)

def numberedOf? {α : Type} (source : Paged.Source) (table : StoreTable)
    (record : List Value → Option α) : Option (Option (Numbered α)) := do
  match ← source.table? table.name with
  | none => some none
  | some rows =>
    let last ← lastOf? source table
    let rows ← rows.mapM fun (number, row) => do some (number, ← record row)
    if increasing : rows.Pairwise fun a b => a.1 < b.1 then some (some { last, rows, increasing })
    else none

/-- The store in a file, and how often the file was changed. -/
def ofBytes? (b : ByteArray) : Option (Store × Nat) := do
  let source ← Paged.Source.ofBytes? b
  let store : Store := {
    version := source.version
    binaries := ← numberedOf? source .binaries binaryOf?
    runs := ← numberedOf? source .runs runOf?
    types := ← keyedOf? source .types typeOf?
    functions := ← keyedOf? source .functions functionOf?
    parameters := ← keyedOf? source .parameters parameterOf? }
  some (store, source.changes)

/-! ## Changes -/

/-- How many versions a store is behind, if it is migrated: so many changes bring it
to the current one. -/
def upgrades (s : Store) : Nat :=
  (if s.version = 0 then 1 else 0) + (if s.version < 2 then 1 else 0) +
    if s.version < currentVersion then 1 else 0

/-- How many numbers of a table were given since. -/
def given {α : Type} (before after : Option (Numbered α)) : Nat :=
  (((after.map Numbered.last).getD 0) - ((before.map Numbered.last).getD 0)).toNat

/-- How many changes lead to another store.  A binary is a change, and so is a run with
all that it found.  A store that is written again was changed. -/
def changesTo (before after : Store) : Nat :=
  max 1 (before.upgrades + given before.binaries after.binaries + given before.runs after.runs)

end Store

end DebugCatalog

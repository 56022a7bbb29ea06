import DebugCatalog.Collector.Basic
import DebugCatalog.DataType.Reader
import DebugCatalog.Store.Runs

/-!
# Findings in a store

What a run found is kept in three tables: types by name, functions by address,
and their parameters by address and position.  Types are kept as JSON texts.

`Store.recordRun` notes a run together with what it found; `Store.loadFindings`
gives that back.  Writing fails as a whole or not at all, because a failure has
no store to go on with.
-/

namespace DebugCatalog

namespace StoredType

def key (t : StoredType) : Int × String :=
  (t.run, t.name)

def ofEntry (run : Int) (e : TypeEntry) : StoredType where
  run
  name := e.name
  definition := e.type.encode

end StoredType

namespace StoredFunction

def key (f : StoredFunction) : Int × Int :=
  (f.run, f.address)

def ofRecord (run : Int) (f : FunctionRecord) : StoredFunction where
  run
  address := Word.toSigned f.address
  shortName := f.shortName
  fullName := f.fullName
  rawName := f.rawName
  returnType := f.returnType.encode

end StoredFunction

namespace StoredParameter

def key (p : StoredParameter) : Int × Int × Int :=
  (p.run, p.address, p.position)

/-- The parameters of a function, by position. -/
def ofRecord (run : Int) (f : FunctionRecord) : List StoredParameter :=
  f.parameters.zipIdx.map fun ((name, type), position) =>
    { run, address := Word.toSigned f.address, position, name, definition := type.encode }

/-- Parameters are read by address, and by position at each. -/
def before (p q : StoredParameter) : Bool :=
  p.address < q.address || (p.address == q.address && p.position ≤ q.position)

end StoredParameter

namespace Store

/-! ## Writing -/

/-- Writes what a collector holds under a run.  Types are written before the
tables of functions and parameters are asked for. -/
def writeFindings (s : Store) (run : Int) (c : Collector) : Except StoreError Store := do
  let types ← need .types s.types
  let types := c.types.toList.foldl
    (fun rows e => replaceRow StoredType.key rows (.ofEntry run e)) types
  let functions ← need .functions s.functions
  let parameters ← need .parameters s.parameters
  let functions := c.functions.toList.foldl
    (fun rows e => replaceRow StoredFunction.key rows (.ofRecord run e.function)) functions
  let parameters := c.functions.toList.foldl
    (fun rows e => (StoredParameter.ofRecord run e.function).foldl
      (replaceRow StoredParameter.key) rows) parameters
  .ok { s with types := some types, functions := some functions, parameters := some parameters }

/-- Notes a run and what it found. -/
def recordRun (s : Store) (r : RunRecord) (c : Collector) : Except StoreError (Store × Int) := do
  let (s, id) ← s.insertRun r
  .ok (← s.writeFindings id c, id)

/-! ## Reading -/

/-- The columns in which the types of the three tables stand. -/
def typeColumn : Nat := 1

def parameterColumn : Nat := 2

def returnColumn : Nat := 4

def decodeColumn (index : Nat) (text : String) : Except StoreError DataType :=
  match DataType.decode text with
  | .ok t => .ok t
  | .error fault => .error (.column index (.json fault))

def decodeType (t : StoredType) : Except StoreError (String × DataType) := do
  .ok (t.name, ← decodeColumn typeColumn t.definition)

def decodeParameter (p : StoredParameter) : Except StoreError (Int × String × DataType) := do
  .ok (p.address, p.name, ← decodeColumn parameterColumn p.definition)

/-- A stored function, given the parameters of the whole run. -/
def decodeFunction (parameters : List (Int × String × DataType)) (f : StoredFunction) :
    Except StoreError FunctionRecord := do
  let returnType ← decodeColumn returnColumn f.returnType
  .ok {
    shortName := f.shortName
    fullName := f.fullName
    rawName := f.rawName
    address := Word.ofSigned f.address
    returnType
    parameters := (parameters.filter fun p => p.1 == f.address).map Prod.snd }

/-- What a run found, credited to its parser. -/
def loadFindings (s : Store) (run : Int) : Except StoreError Collector := do
  let runs ← need .runs s.runs
  let parser ←
    match runs.find? run with
    | some r => .ok r.parser
    | none => .error (.unknownRun run)
  let types ← need .types s.types
  let types ← (types.filter fun t => t.run == run).mapM decodeType
  let parameters ← need .parameters s.parameters
  let parameters ← ((parameters.filter fun p => p.run == run).mergeSort
    StoredParameter.before).mapM decodeParameter
  let functions ← need .functions s.functions
  let functions ← (functions.filter fun f => f.run == run).mapM (decodeFunction parameters)
  let c := Collector.empty.crediting (some parser)
  let c := types.foldl (fun c (name, type) => c.addType name type) c
  let c := functions.foldl Collector.addFunction c
  .ok (c.crediting none)

end Store

end DebugCatalog

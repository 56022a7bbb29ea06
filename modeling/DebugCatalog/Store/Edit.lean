import DebugCatalog.Store.Findings

/-!
# Editing a store by hand

Changes that the library itself never makes, for looking at what becomes of a
store that somebody else wrote to.  Each edit of rows says how many it met.
-/

namespace DebugCatalog.Store

def setVersion (s : Store) (version : Int) : Store :=
  { s with version }

def dropTable (s : Store) (table : StoreTable) : Except StoreError Store :=
  match table with
  | .binaries => do let _ ← need table s.binaries; .ok { s with binaries := none }
  | .runs => do let _ ← need table s.runs; .ok { s with runs := none }
  | .types => do let _ ← need table s.types; .ok { s with types := none }
  | .functions => do let _ ← need table s.functions; .ok { s with functions := none }
  | .parameters => do let _ ← need table s.parameters; .ok { s with parameters := none }

/-- Changes the rows that are met, and counts them. -/
def editRows {α : Type} (meets : α → Bool) (change : α → α) (rows : List α) : List α × Nat :=
  (rows.map fun r => if meets r then change r else r, rows.countP meets)

def setRunStatus (s : Store) (run : Int) (status : String) : Except StoreError (Store × Nat) := do
  let t ← need .runs s.runs
  .ok ({ s with runs := some (t.map fun id r => if id == run then { r with status } else r) },
    t.rows.countP fun (id, _) => id == run)

def deleteRun (s : Store) (run : Int) : Except StoreError (Store × Nat) := do
  let t ← need .runs s.runs
  .ok ({ s with runs := some (t.filter fun id _ => id != run) },
    t.rows.countP fun (id, _) => id == run)

def setTypeText (s : Store) (run : Int) (name text : String) :
    Except StoreError (Store × Nat) := do
  let rows ← need .types s.types
  let (rows, n) := editRows (fun t : StoredType => t.key == (run, name))
    (fun t => { t with definition := text }) rows
  .ok ({ s with types := some rows }, n)

def setReturnText (s : Store) (run : Int) (address : UInt64) (text : String) :
    Except StoreError (Store × Nat) := do
  let rows ← need .functions s.functions
  let (rows, n) := editRows (fun f : StoredFunction => f.key == (run, Word.toSigned address))
    (fun f => { f with returnType := text }) rows
  .ok ({ s with functions := some rows }, n)

def setParameterText (s : Store) (run : Int) (address : UInt64) (position : Int) (text : String) :
    Except StoreError (Store × Nat) := do
  let rows ← need .parameters s.parameters
  let (rows, n) := editRows
    (fun p : StoredParameter => p.key == (run, Word.toSigned address, position))
    (fun p => { p with definition := text }) rows
  .ok ({ s with parameters := some rows }, n)

end DebugCatalog.Store

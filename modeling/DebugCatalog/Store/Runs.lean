import DebugCatalog.Store.Basic

/-!
# Runs in a store

Runs are noted in the order in which they happened.  For a binary,
`Store.latestRuns` gives the last run of every parser that ever ran on it.
-/

namespace DebugCatalog

def StoredRun.ofRecord (r : RunRecord) : StoredRun where
  binary := r.binary
  parser := r.parser
  status := r.status.name
  typesAdded := Word.toSigned r.typesAdded
  functionsAdded := Word.toSigned r.functionsAdded
  message := r.message
  startedAt := r.startedAt
  finishedAt := r.finishedAt

/-- The column of a run in which its status stands. -/
def StoredRun.statusColumn : Nat := 2

def StoredRun.toRecord (r : StoredRun) : Except StoreError RunRecord :=
  match RunStatus.parse r.status with
  | .error m => .error (.column statusColumn (.status m))
  | .ok status => .ok {
      binary := r.binary
      parser := r.parser
      status
      typesAdded := Word.ofSigned r.typesAdded
      functionsAdded := Word.ofSigned r.functionsAdded
      message := r.message
      startedAt := r.startedAt
      finishedAt := r.finishedAt }

namespace Store

def insertRun (s : Store) (r : RunRecord) : Except StoreError (Store × Int) := do
  let t ← need .runs s.runs
  let (t, id) ← pushRow t (.ofRecord r)
  .ok ({ s with runs := some t }, id)

/-- The runs over one binary, or over all. -/
def listRuns (s : Store) (binary : Option String) : Except StoreError (List RunRecord) := do
  let t ← need .runs s.runs
  let chosen : List StoredRun := match binary with
    | some b => t.contents.filter fun r => r.binary == b
    | none => t.contents
  chosen.mapM StoredRun.toRecord

def latestRun? (s : Store) (binary parser : String) : Except StoreError (Option Int) := do
  let t ← need .runs s.runs
  let chosen := t.rows.filter fun (_, r) => r.binary == binary && r.parser == parser
  .ok (chosen.getLast?.map Prod.fst)

/-- The last entry of each parser. -/
def lastOfEach : List (Int × String) → List (Int × String)
  | [] => []
  | (id, parser) :: rest =>
    if rest.any fun (_, p) => p == parser then lastOfEach rest
    else (id, parser) :: lastOfEach rest

def latestRuns (s : Store) (binary : String) : Except StoreError (List (Int × String)) := do
  let t ← need .runs s.runs
  let chosen := t.rows.filter fun (_, r) => r.binary == binary
  .ok (lastOfEach (chosen.map fun (id, r) => (id, r.parser)))

end Store

end DebugCatalog

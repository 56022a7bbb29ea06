import DebugCatalog.Store.Findings

/-!
# What is known of a binary

A parser may run over a binary many times, and only its last run counts.
`Store.loadBinary` merges the last runs of all parsers, in the order in which
these runs happened.
-/

namespace DebugCatalog.Store

/-- The runs that count: the last of each parser, or of one parser only. -/
def currentRuns (s : Store) (binary : String) : Option String → Except StoreError (List Int)
  | some parser => do .ok (← s.latestRun? binary parser).toList
  | none => do .ok ((← s.latestRuns binary).map Prod.fst)

def loadBinary (s : Store) (binary : String) (parser : Option String) :
    Except StoreError Collector := do
  let found ← (← s.currentRuns binary parser).mapM s.loadFindings
  .ok (found.foldl (fun merged c => (merged.merge c).1) .empty)

end DebugCatalog.Store

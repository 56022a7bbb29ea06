import DebugCatalog.Path

/-!
# Project layouts

Where a project keeps its files below its root.  Nothing here looks at a disk.
-/

namespace DebugCatalog

structure Layout where
  root : String
  /-- Where the configuration and the database are. -/
  metaDir : String
  configPath : String
  databasePath : String
  reportsDir : String
  deriving DecidableEq

namespace Layout

def of (root : String) : Layout :=
  let metaDir := Path.join root ".debuginfo"
  { root
    metaDir
    configPath := Path.join metaDir "project.json"
    databasePath := Path.join metaDir "project.db"
    reportsDir := Path.join root "reports" }

/-- The path of the database as a configuration has it: relative to the root. -/
def databasePathInProject (l : Layout) : String :=
  (Path.strip l.databasePath l.root).getD l.databasePath

def reportFile (binary extension : String) : String :=
  binary ++ ".debuginfo." ++ extension

def reportPath (l : Layout) (binary extension : String) : String :=
  Path.join l.reportsDir (reportFile binary extension)

end Layout

/-- The name of a project that was given none: the last component of its root. -/
def projectName (root : String) : String :=
  (Path.fileName root).getD "unnamed-project"

end DebugCatalog

import DebugCatalog.Failure
import DebugCatalog.Host
import DebugCatalog.Image.Load
import DebugCatalog.Project.Config
import DebugCatalog.Project.Layout
import DebugCatalog.Store.Known

/-!
# Projects on a host

A project is a root directory with a configuration and an open database.  It is
found by `locate`, which gives an absolute path also for roots that are not
there yet.  `Project.ingest` runs an ingest into the database of a project.
-/

namespace DebugCatalog

variable {m : Type → Type} [Monad m] [Host m]

structure Project (m : Type → Type) [Host m] where
  layout : Layout
  config : Config
  databasePath : String
  database : Host.Handle m

namespace Project

/-- The absolute path of a root. -/
def locate (root : String) : m String := do
  let current ← Host.currentDirectory
  if Path.components root = [.current] then pure current
  else
    match ← Host.canonicalize root with
    | .ok path => pure path
    | .error _ => pure (Path.join current root)

/-! ## Configurations -/

def textOf (b : ByteArray) : Except FileError String :=
  match String.fromUTF8? b with
  | some text => .ok text
  | none => .error .notText

def loadConfig (l : Layout) : ExceptT Failure m Config := do
  let bytes ← Failure.during (task l) .file (Host.read l.configPath)
  let text ← Failure.during (task l) .file (pure (textOf bytes))
  Failure.during ["Failed to parse project config JSON"] .json (pure (Config.decode text))
where
  task (l : Layout) : List String := ["Failed to read project config at " ++ l.configPath]

/-- Writes the configuration, and makes the directory it is in. -/
def saveConfig (l : Layout) (c : Config) : ExceptT Failure m Unit := do
  Failure.during ["Failed to create meta dir: " ++ l.metaDir] .file
    (Host.makeDirectories l.metaDir)
  Failure.during ["Failed to write project config: " ++ l.configPath] .file
    (Host.write l.configPath c.fileText.toUTF8)

/-! ## Databases -/

/-- Brings a database to the current version.  One that has it is not written. -/
def migrateStore (database : Host.Handle m) : m (Except StoreError Unit) :=
  ExceptT.run do
    let store ← ExceptT.mk (Host.loadStore database)
    let migrated ← ExceptT.mk (pure store.migrate)
    if migrated ≠ store then ExceptT.mk (Host.saveStore database migrated)

/-- Opens a database of the current version.  One that cannot be brought to it is
closed again. -/
def openStore (path : String) : m (Except StoreError (Host.Handle m)) := do
  match ← Host.openStore path with
  | .error e => return .error e
  | .ok database =>
    match ← migrateStore database with
    | .ok () => return .ok database
    | .error e =>
      Host.closeStore database
      return .error e

/-- Where the database of a configuration is. -/
def databasePathOf (l : Layout) (c : Config) : String :=
  Path.join l.root c.databasePath

/-- The project at a root. -/
def load (root : String) : ExceptT Failure m (Project m) := do
  let layout := Layout.of root
  let config ← loadConfig layout
  let databasePath := databasePathOf layout config
  let database ← Failure.during ["Failed to open project database at " ++ databasePath] .store
    (openStore databasePath)
  return { layout, config, databasePath, database }

def close (p : Project m) : m Unit :=
  Host.closeStore p.database

/-- Asks the database. -/
def query {α : Type} (p : Project m) (f : Store → Except StoreError α) :
    m (Except StoreError α) := do
  return (← Host.loadStore p.database).bind f

end Project

/-! ## Binaries -/

/-- The image of a file, named after it. -/
def Image.ofFile (path : String) (b : ByteArray) : Image :=
  .load ((Path.fileName path).getD path) (some path) b

def openImage (path : String) : m (Except FileError Image) := do
  return (← Host.read path).map (Image.ofFile path)

namespace Ingest

/-- A path as a project notes it: from the root on, if it is below it. -/
def recordedPath (root path : String) : m String := do
  let below := match ← Host.canonicalize path, ← Host.canonicalize root with
    | .ok path, .ok root => Path.strip path root
    | _, _ => none
  return (below.or (Path.strip path root)).getD path

/-- What is at the path of a request to a project, or to none. -/
def subjectAt (root : Option String) (path : String) : m Subject := do
  if !(← Host.isFile path) then return .missing
  match ← openImage path with
  | .error e => return .unreadable e
  | .ok v =>
    match root with
    | none => return .image v path
    | some root => return .image v (← recordedPath root path)

/-- Notes an ingest in the database of a project.  What is as it was is not
written. -/
def noteIn (p : Project m) (run : Option Store → Except Error Summary × Option Store) :
    m (Except Error Summary) := do
  match ← Host.loadStore p.database with
  | .error e => return .error (.store e)
  | .ok store =>
    let (result, after) := run (some store)
    if after = some store then return result
    match ← Host.saveStore p.database (after.getD store) with
    | .ok () => return result
    | .error e => return .error (.store e)

/-- An ingest into the database of a project, if there is one.  An ingest that
cannot begin does not ask the database. -/
def into (project : Option (Project m)) (r : Registry) (request : Request) :
    m (Except Error Summary) := do
  let subject ← subjectAt (project.map fun p => p.layout.root) request.path
  let now ← Host.now
  match project with
  | none => return (run r [] now subject request none).1
  | some p =>
    match prepare r p.config.defaultParsers subject request with
    | .error e => return .error e
    | .ok _ => noteIn p (run r p.config.defaultParsers now subject request)

end Ingest

end DebugCatalog
